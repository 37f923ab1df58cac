import ChordEditor.Definition.SyntaxTree
import ChordEditor.Grammar.Builtin
import ChordEditor.Text.Case

namespace ChordEditor

/-!
# The registry of grammars

Grammars are found by their name or by an alias, without regard to the case of ASCII
letters in what is asked for.  An alias wins over a name.

Definitions are looked up in texts of one of the grammars with a parser, which comes from
outside and is held by the registry.
-/

/-- Grammars by name, and names by alias; the entry made last comes first. -/
structure GrammarRegistry where
  grammars : List (String × Grammar) := []
  aliases : List (String × String) := []
  /-- The parser of texts that have definitions. -/
  parser : Parser := fun _ => .error "none is registered"

namespace GrammarRegistry

/-- Register a grammar under its own name and some aliases. -/
def register
    (registry : GrammarRegistry)
    (grammar : Grammar)
    (aliases : List String) : GrammarRegistry :=
  { registry with
    grammars := (grammar.name, grammar) :: registry.grammars
    aliases :=
      aliases.foldl (fun known other => (other, grammar.name) :: known) registry.aliases }

/-- The grammar with a name or an alias. -/
def get (registry : GrammarRegistry) (name : String) : Except GrammarError Grammar :=
  let asked := Text.asciiLower name
  let resolved := (registry.aliases.lookup asked).getD asked
  match registry.grammars.lookup resolved with
  | some grammar => .ok grammar
  | none => .error (.unknownGrammar name)

/-- The registry of the built-in grammars with their usual aliases. -/
def builtin : Except GrammarError GrammarRegistry := do
  let python ← Grammar.python
  let blink ← Grammar.blink
  let tcl ← Grammar.tcl
  return ({} : GrammarRegistry)
    |>.register python ["py"]
    |>.register blink ["blinkscript", "kernel", "cpp"]
    |>.register tcl ["expression", "expr"]

end GrammarRegistry

namespace GrammarError

/-- The wording of an error. -/
def message : GrammarError → String
  | .unknownGrammar name => "unknown grammar '" ++ name ++ "'"
  | .badRule pattern => "rule '" ++ pattern ++ "' does not compile"
  | .numberOverflow => "a construct has no number"

end GrammarError

end ChordEditor
