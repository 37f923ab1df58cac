import ChordEditor.Editor.Overflow
import ChordEditor.KeyNotation

namespace ChordEditor

/-!
# Replaying keys

Feeding a run of key presses to a session over a text, and reporting what came of it.
-/

/-- Why a report cannot be made. -/
inductive ReportError where
  | badKeys (keys : String) (error : KeyError)
  | cannotStart (error : GrammarError)
  | unknownGrammar (error : GrammarError)
  | cannotRead (path reason : String)
  | noParser (reason : String)
  /-- A command came to a number that is no machine word, which stops the program. -/
  | overflow
  deriving Repr, DecidableEq

namespace ReportError

/-- The wording of an error, with what led to it behind a colon. -/
def message : ReportError → String
  | .badKeys keys error => "bad key notation '" ++ keys ++ "': " ++ error.message
  | .cannotStart error => "cannot start editor: " ++ error.message
  | .unknownGrammar error => error.message
  | .cannotRead path reason => "cannot read " ++ path ++ ": " ++ reason
  | .noParser reason =>
      "definition lookup failed: " ++ DefinitionLookup.parserMessage reason
  | .overflow => "a number is no machine word"

end ReportError

/-- What came of replaying keys; line and column are counted from zero. -/
structure ReplayReport where
  text : List Char
  mode : Mode
  line : Nat
  column : Nat
  hostActions : List HostAction
  messages : List String
  deriving Repr, DecidableEq

namespace ReplayReport

/-- Feed presses to an editor in machine words; gives the outcomes in order. -/
def feed? (editor : Editor) : List KeyEvent → Option (List EventOutcome × Editor)
  | [] => some ([], editor)
  | event :: events => do
      let (outcome, next) ← editor.handleKey? event
      let (outcomes, final) ← feed? next events
      return (outcome :: outcomes, final)

/-- Replay keys in key notation over a text. -/
def run
    (config : Config)
    (grammars : GrammarRegistry)
    (text : List Char)
    (keys : String) : Except ReportError ReplayReport :=
  match KeyNotation.read keys.toList with
  | .error error => .error (.badKeys keys error)
  | .ok events =>
      match Editor.start config grammars text with
      | .error error => .error (.cannotStart error)
      | .ok editor =>
          match feed? editor events with
          | none => .error .overflow
          | some (outcomes, final) =>
              .ok
                { text := final.buffer.text
                  mode := final.mode
                  line := final.window.line final.buffer
                  column := final.window.column final.buffer
                  hostActions := outcomes.flatMap EventOutcome.hostActions
                  messages := outcomes.filterMap EventOutcome.message }

/-- The report as text. -/
def render (report : ReplayReport) : String :=
  let place := toString (report.line + 1) ++ ":" ++ toString (report.column + 1)
  let lines :=
    [String.ofList report.text, "---", "mode " ++ report.mode.title ++ " at " ++ place] ++
      (report.hostActions.map fun action => "host " ++ action.name) ++
      (report.messages.map fun message => "message " ++ message)
  "\n".intercalate lines

/-- The report as a JSON value. -/
def toJson (report : ReplayReport) : JsonValue :=
  .object
    [ ("text", .string (String.ofList report.text)),
      ("mode", .string report.mode.title),
      ("line", .integer report.line),
      ("column", .integer report.column),
      ("host_actions", .array (report.hostActions.map fun action => .string action.name)),
      ("messages", .array (report.messages.map .string)) ]

end ReplayReport

end ChordEditor
