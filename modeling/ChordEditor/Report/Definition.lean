import ChordEditor.Definition.Lookup
import ChordEditor.Report.Replay

namespace ChordEditor

/-!
# Reporting where a name is defined
-/

/-- Where a name is defined in a text, or why no definition is shown. -/
inductive DefinitionReport where
  | found (location : Location)
  | notFound
  | unsupported (grammar : String)
  /-- The line is counted from one. -/
  | brokenText (line : Nat)
  deriving Repr, DecidableEq

namespace DefinitionReport

/-- Look up a name in a text. -/
def run
    (config : Config)
    (grammars : GrammarRegistry)
    (text name : List Char) : Except ReportError DefinitionReport :=
  match grammars.get config.settings.grammar with
  | .error error => .error (.unknownGrammar error)
  | .ok grammar =>
      match DefinitionLookup.find grammars.parser grammar.name text name with
      | .found location => .ok (.found location)
      | .notFound => .ok .notFound
      | .unsupported => .ok (.unsupported grammar.name)
      | .brokenText line => .ok (.brokenText line)
      | .noParser reason => .error (.noParser reason)

/-- The report as text; lines and columns are shown counted from one. -/
def render : DefinitionReport → String
  | .found location =>
      "found at " ++ toString (location.line + 1) ++ ":" ++ toString (location.column + 1)
  | .notFound => "not found"
  | .unsupported grammar => "goto definition is not available for " ++ grammar
  | .brokenText line => "syntax error on line " ++ toString line

/-- The report as a JSON value. -/
def toJson : DefinitionReport → JsonValue
  | .found location =>
      .object
        [ ("outcome", .string "found"),
          ("line", .integer location.line),
          ("column", .integer location.column) ]
  | .notFound => .object [("outcome", .string "not_found")]
  | .unsupported grammar =>
      .object [("outcome", .string "unsupported"), ("grammar", .string grammar)]
  | .brokenText line =>
      .object [("outcome", .string "syntax_error"), ("line", .integer line)]

end DefinitionReport

end ChordEditor
