import ChordEditor.Definition.Python.Reader
import ChordEditor.Definition.SyntaxTree

namespace ChordEditor.Python

/-!
# The tree of a module

The tool comes with a reader that tells where a module defines names, or where it is not
well formed.  This is all that is looked up, so that the tree has no other nodes.
-/

namespace Fault

/-- Whether some open brackets are still open at the end of a text. -/
def staysOpen : Nat → List Char → Bool
  | openBrackets, [] => 0 < openBrackets
  | openBrackets, c :: rest =>
      if openBrackets = 0 then
        false
      else if ['(', '[', '\x7b'].contains c then
        staysOpen (openBrackets + 1) rest
      else if [')', ']', '\x7d'].contains c then
        staysOpen (openBrackets - 1) rest
      else
        staysOpen openBrackets rest

/--
The place that a fault is reported at.  A token that fits nowhere between brackets is at
fault itself; without brackets, or with brackets that are never closed, the statement is.
-/
def reported (fault : Fault) (text : List Char) : Nat :=
  match fault.cause with
  | .unreadable => fault.place
  | .missingOperand => fault.after
  | .unclosedLiteral => fault.statement
  | .misplaced =>
      if fault.openBrackets = 0 || staysOpen fault.openBrackets (text.drop fault.place) then
        fault.statement
      else
        fault.place

end Fault

/-- The node over some characters of a text. -/
def nodeOver (text : List Char) (place length : Nat) (kind : String) : SyntaxNode :=
  { kind
    start := .ofPlace text place
    startByte := Text.bytesBefore text place
    stopByte := Text.bytesBefore text (place + length) }

/-- The tree of a definition whose name begins at a place. -/
def definitionAt (text : List Char) (place : Nat) : SyntaxTree :=
  let width := (wordAt (text.drop place)).length
  let name := { nodeOver text place width "identifier" with field := some "name" }
  .branch (nodeOver text place width "function_definition") [.branch name []]

/-- Make the tree of a module. -/
def parse : Parser := fun text =>
  let root := nodeOver text 0 text.length "module"
  match definedNames text with
  | .ok places => .ok (.branch root (places.map (definitionAt text)))
  | .error fault =>
      let broken := { nodeOver text (fault.reported text) 0 "ERROR" with isFault := true }
      .ok (.branch { root with hasFault := true } [.branch broken []])

end ChordEditor.Python
