import ChordEditor.Commands.Basic
import ChordEditor.Text.Case

namespace ChordEditor.Commands

/-!
# Indentation and letter case

Shifting lines by units of indentation, indenting a whole text anew, and writing a part of
it in upper or lower case.
-/

/-- Indent a line unless it is blank. -/
def indentLine (line units : Nat) : CommandM Unit := do
  let editor ← get
  unless Text.isBlankText (editor.buffer.lineText line) do
    CommandM.insert (editor.buffer.lineStart line)
      (List.replicate (editor.settings.tabWidth * units) ' ')

/-- How many characters of an indentation take no more columns than `room`. -/
def charsWithin (tabWidth : Nat) : Nat → List Char → Nat
  | _, [] => 0
  | room, c :: rest =>
      let width := if c = '\t' then tabWidth else 1
      if width ≤ room then charsWithin tabWidth (room - width) rest + 1 else 0

/-- Take away up to some units of a line's indentation. -/
def outdentLine (line units : Nat) : CommandM Unit := do
  let editor ← get
  let tabWidth := editor.settings.tabWidth
  let indent := Text.leadingBlank (editor.buffer.lineText line)
  let start := editor.buffer.lineStart line
  let _ ← CommandM.delete ⟨start, start + charsWithin tabWidth (tabWidth * units) indent⟩

/--
Shift lines to the right or to the left: the selected ones by as many units as the
count says, else as many lines as it says by one unit.
-/
def shift (right : Bool) (context : CommandContext) : CommandM Unit := do
  let editor ← get
  let lines := editor.linesActedOn context.count
  let units := if editor.mode.isVisual then context.count else 1
  CommandM.forLines lines fun line =>
    if right then indentLine line units else outdentLine line units
  CommandM.setMode .normal
  CommandM.change fun editor => editor.setCursor (editor.buffer.firstNonBlank lines.first)

/-- The differences between neighbours that are not zero. -/
def steps : List Nat → List Nat
  | first :: second :: rest =>
      let step := (first - second) + (second - first)
      if step = 0 then steps (second :: rest) else step :: steps (second :: rest)
  | _ => []

/-- The most frequent number; of several the one that comes first. -/
def mostFrequent? (numbers : List Nat) : Option Nat :=
  let most := (numbers.map fun number => numbers.count number).max?
  numbers.find? fun number => some (numbers.count number) = most

/-- The unit that lines are indented by: the most frequent step between lines with text. -/
def indentUnit? (tabWidth : Nat) (lines : List (List Char)) : Option Nat :=
  let written := lines.filter fun line => !line.isEmpty
  mostFrequent? (steps (written.map fun line => Text.indentWidth line tabWidth))

/-- A quotient rounded up. -/
def divUp (dividend divisor : Nat) : Nat :=
  (dividend + divisor - 1) / divisor

/-- The columns that an indentation takes after indenting anew. -/
def retabbedWidth (tabWidth : Nat) (unit : Option Nat) (width : Nat) : Nat :=
  let scaled :=
    match unit with
    | some unit => if unit > 1 then divUp (width * tabWidth) unit else width
    | none => width
  divUp scaled tabWidth * tabWidth

/-- Indent a line anew, given its former width; gives whether it changed. -/
def retabLine (unit : Option Nat) (line width : Nat) : CommandM Bool := do
  let editor ← get
  let indent := Text.leadingBlank (editor.buffer.lineText line)
  let replacement :=
    List.replicate (retabbedWidth editor.settings.tabWidth unit width) ' '
  if replacement = indent then
    return false
  let start := editor.buffer.lineStart line
  CommandM.replace ⟨start, start + indent.length⟩ replacement
  return true

/-- Indent lines anew, from `line` on, given their former widths; counts those that changed. -/
def retabFrom (unit : Option Nat) : Nat → List Nat → CommandM Nat
  | _, [] => return 0
  | line, width :: widths => do
      let changed ← retabLine unit line width
      let others ← retabFrom unit (line + 1) widths
      return others + if changed then 1 else 0

/--
Indent the whole text anew by units of the tab width, rescaling from the unit it was
written with; counts the lines that changed.
-/
def retab : CommandM Nat := do
  let editor ← get
  let tabWidth := editor.settings.tabWidth
  let lines := editor.buffer.lineTexts
  retabFrom (indentUnit? tabWidth lines) 0
    (lines.map fun line => Text.indentWidth line tabWidth)

/-- What a change of case acts on: the selection, or the word at the cursor. -/
def caseSpan? (editor : Editor) : Option Span :=
  if editor.mode.isVisual then
    match editor.selection with
    | .chars span => some span
    | .lines first last =>
        some ⟨editor.buffer.lineStart first, editor.buffer.lineEnd last⟩
  else
    editor.buffer.wordSpan? editor.position

/-- Write the selection, or the word at the cursor, in upper or lower case. -/
def changeCase (upper : Bool) : CommandM Unit := do
  let editor ← get
  match caseSpan? editor with
  | none => return
  | some span =>
      let text := editor.buffer.spanText span
      let mapped := if upper then Text.upperText text else Text.lowerText text
      if mapped ≠ text then
        CommandM.replace span mapped
      CommandM.setMode .normal
      CommandM.setCursor span.start

end ChordEditor.Commands
