import ChordEditor.Commands.Indentation
import ChordEditor.Commands.Search
import ChordEditor.LineCommand

namespace ChordEditor.Commands

/-!
# Commands submitted on the command line
-/

/-- What is put behind a noun that is counted. -/
def pluralEnding (count : Nat) : String :=
  if count = 1 then "" else "s"

/-- Go to a line, counted from one. -/
def gotoLine (line : Nat) : CommandM Unit :=
  CommandM.change fun editor =>
    editor.setCursor (editor.buffer.firstNonBlank (min (line - 1) editor.buffer.lastLine))

/-- Replace pieces of one length by a text, at places given from last to first. -/
def replaceEach (length : Nat) (replacement : List Char) (places : List Nat) : CommandM Unit :=
  places.forM fun place => CommandM.replace ⟨place, place + length⟩ replacement

/-- Replace the occurrences of a text on one line, or only the first one; counts them. -/
def substituteLine
    (pattern replacement : List Char)
    (everywhere : Bool)
    (line : Nat) : CommandM Nat := do
  let buffer := (← get).buffer
  let found := Text.occurrences pattern (buffer.lineText line)
  let columns := if everywhere then found else found.take 1
  replaceEach pattern.length replacement
    (columns.reverse.map fun column => buffer.lineStart line + column)
  return columns.length

/-- Replace the occurrences of a text on some lines, in the order given; counts them. -/
def substituteLines
    (pattern replacement : List Char)
    (everywhere : Bool) : List Nat → CommandM Nat
  | [] => return 0
  | line :: lines => do
      let count ← substituteLine pattern replacement everywhere line
      let others ← substituteLines pattern replacement everywhere lines
      return count + others

/-- Replace a text on the line of the cursor or in the whole document. -/
def substitute
    (pattern replacement : List Char)
    (wholeDocument everywhere : Bool) : CommandM Unit := do
  let editor ← get
  let count ←
    if wholeDocument ∧ everywhere then
      CommandM.edit fun buffer => buffer.replaceAll pattern replacement
    else if wholeDocument then
      substituteLines pattern replacement everywhere
        (List.range editor.buffer.lineCount).reverse
    else
      substituteLine pattern replacement everywhere editor.currentLine
  if count = 0 then
    tellNotFound pattern
  else
    CommandM.tell (toString count ++ " substitution" ++ pluralEnding count)

/-- Run a submitted command. -/
def runLine : LineCommand → CommandM Unit
  | .empty => pure ()
  | .write => CommandM.request .save
  | .quit => CommandM.request .exitContext
  | .writeQuit => do
      CommandM.request .save
      CommandM.request .exitContext
  | .tabNew => CommandM.request .newPage
  | .tabClose => CommandM.request .closePage
  | .tabOnly => CommandM.request .closeOtherPages
  | .retab => do
      let changed ← retab
      CommandM.tell ("Retabbed " ++ toString changed ++ " line" ++ pluralEnding changed)
  | .gotoLine line => gotoLine line
  | .search term => searchTerm term
  | .substitute pattern replacement wholeDocument everywhere =>
      substitute pattern replacement wholeDocument everywhere
  | .unknown text => CommandM.tell ("Not an editor command: " ++ String.ofList text)

end ChordEditor.Commands
