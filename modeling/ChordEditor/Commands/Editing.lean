import ChordEditor.Commands.Basic

namespace ChordEditor.Commands

/-!
# Single characters, joining, pasting, inserting, undo and redo
-/

/-- Delete characters from the cursor on, but no line break. -/
def deleteChar (context : CommandContext) : CommandM Unit := do
  let editor ← get
  let place := editor.position
  let stop := min (place + context.count) (editor.buffer.lineEnd editor.currentLine)
  if stop > place then
    let removed ← CommandM.delete ⟨place, stop⟩
    CommandM.store removed false
  CommandM.setCursor place

/-- Delete characters from the cursor on, and insert there. -/
def substituteChar (context : CommandContext) : CommandM Unit := do
  deleteChar context
  CommandM.setMode .insert

/-- Overwrite characters by the captured one, if the line has as many. -/
def replaceChar (context : CommandContext) : CommandM Unit := do
  let editor ← get
  match context.literals[0]? with
  | none => return
  | some c =>
      let place := editor.position
      let stop := place + context.count
      unless stop > editor.buffer.lineEnd editor.currentLine do
        CommandM.replace ⟨place, stop⟩ (List.replicate context.count c)
        CommandM.setCursor (stop - 1)

/--
Join the next line to a line: blanks at the seam become one space, or nothing when one
of the two is blank.  Gives the place of the seam.
-/
def joinNext (line : Nat) : CommandM Nat := do
  let buffer := (← get).buffer
  let current := buffer.lineText line
  let seam := buffer.lineStart line + (Text.trimEnd current).length
  let next := buffer.firstNonBlank (line + 1)
  let nextIsBlank := next = buffer.lineEnd (line + 1)
  let separator := if Text.isBlankText current ∨ nextIsBlank then [] else [' ']
  CommandM.replace ⟨seam, next⟩ separator
  return seam

/-- Join up to `count` following lines to a line; gives the place of the last seam. -/
def joinFollowing (line : Nat) : Nat → Nat → CommandM Nat
  | 0, seam => return seam
  | count + 1, seam => do
      if line ≥ (← get).buffer.lastLine then
        return seam
      let seam ← joinNext line
      joinFollowing line count seam

/-- Join as many lines as the count says, two at least. -/
def joinLines (context : CommandContext) : CommandM Unit := do
  let editor ← get
  let seam ← joinFollowing editor.currentLine (max context.count 2 - 1) editor.position
  CommandM.setCursor seam

/-- A text repeated. -/
def repeatText (count : Nat) (text : List Char) : List Char :=
  (List.replicate count text).flatten

/-- A text without the LF at its end, if it has one. -/
def withoutFinalNewline (text : List Char) : List Char :=
  if text.getLast? = some '\n' then text.dropLast else text

/-- Paste whole lines above or below the line of the cursor; gives the first new line. -/
def pasteLines (before : Bool) (text : List Char) : CommandM Nat := do
  let editor ← get
  let line := editor.currentLine
  if before then
    CommandM.insert (editor.buffer.lineStart line) text
    return line
  else if line < editor.buffer.lastLine then
    CommandM.insert (editor.buffer.lineStart (line + 1)) text
    return line + 1
  else
    CommandM.insert editor.buffer.length ('\n' :: withoutFinalNewline text)
    return line + 1

/-- Paste the register: whole lines above or below, characters at the cursor. -/
def paste (before : Bool) (context : CommandContext) : CommandM Unit := do
  let editor ← get
  unless editor.register.isEmpty do
    let text := repeatText context.count editor.register.text
    if editor.register.linewise then
      let line ← pasteLines before text
      CommandM.change fun editor => editor.setCursor (editor.buffer.firstNonBlank line)
    else
      let place := editor.position
      CommandM.insert place text
      CommandM.setCursor (place + text.length - 1)

/-- The indentation of a line that follows a text: one unit more if that opens a block. -/
def indentAfter (settings : EditorSettings) (text : List Char) : List Char :=
  let indent := Text.leadingBlank text
  if (Text.trimEnd text).getLast? = some ':' then indent ++ settings.indentUnit else indent

/-- Open a line below or above, or go to where inserting begins; gives that place. -/
def insertPlace (entry : InsertEntry) : CommandM Nat := do
  let editor ← get
  let buffer := editor.buffer
  let line := editor.currentLine
  match entry with
  | .beforeCursor => return editor.position
  | .afterCursor => return min (editor.position + 1) (buffer.lineEnd line)
  | .lineStart => return buffer.firstNonBlank line
  | .lineEnd => return buffer.lineEnd line
  | .lineBelow =>
      let indent := indentAfter editor.settings (buffer.lineText line)
      CommandM.insert (buffer.lineEnd line) ('\n' :: indent)
      return buffer.lineEnd line + 1 + indent.length
  | .lineAbove =>
      let indent := Text.leadingBlank (buffer.lineText line)
      CommandM.insert (buffer.lineStart line) (indent ++ ['\n'])
      return buffer.lineStart line + indent.length

/-- Begin inserting. -/
def enterInsert (entry : InsertEntry) : CommandM Unit := do
  let place ← insertPlace entry
  CommandM.setCursor place
  CommandM.setMode .insert

/-- Enter a visual mode, leave it, or change over from the other one. -/
def toggleVisual (mode : Mode) : CommandM Unit :=
  CommandM.change fun editor => editor.setMode (if editor.mode = mode then .normal else mode)

/-- Undo as many groups as the count says. -/
def undo : Nat → CommandM Unit
  | 0 => return
  | count + 1 => do
      let editor ← get
      match editor.buffer.undo with
      | (.ok place, buffer) =>
          set ({ editor with buffer }.setCursor place)
          undo count
      | (.error _, buffer) => set ({ editor with buffer }.tell "Already at oldest change")

/-- Redo as many groups as the count says. -/
def redo : Nat → CommandM Unit
  | 0 => return
  | count + 1 => do
      let editor ← get
      match editor.buffer.redo with
      | (.ok place, buffer) =>
          set ({ editor with buffer }.setCursor place)
          redo count
      | (.error _, buffer) => set ({ editor with buffer }.tell "Already at newest change")

end ChordEditor.Commands
