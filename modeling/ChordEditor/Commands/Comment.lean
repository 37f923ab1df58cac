import ChordEditor.Commands.Basic

namespace ChordEditor.Commands

/-!
# Comments

Putting the comment marker of the grammar in front of lines, and taking it away.
-/

/-- A text without a space in front, if it has one. -/
def withoutFirstSpace : List Char → List Char
  | ' ' :: rest => rest
  | text => text

/-- A line with its comment marker put in or taken away; `none` if it stays as it is. -/
def commentLine?
    (line marker : List Char)
    (change : CommentChange) : Option (List Char) :=
  if Text.isBlankText line ∨ marker.isEmpty then
    none
  else
    let indent := Text.leadingBlank line
    let body := Text.trimStart line
    let commented := marker.isPrefixOf body
    let marked := indent ++ marker ++ ' ' :: body
    let unmarked := indent ++ withoutFirstSpace (body.drop marker.length)
    match change with
    | .comment => some marked
    | .uncomment => if commented then some unmarked else none
    | .toggle => some (if commented then unmarked else marked)

/-- Change the comment marker of one line. -/
def commentOneLine (change : CommentChange) (line : Nat) : CommandM Unit := do
  let editor ← get
  let buffer := editor.buffer
  match commentLine? (buffer.lineText line) editor.grammar.commentMarker change with
  | some updated => CommandM.replace ⟨buffer.lineStart line, buffer.lineEnd line⟩ updated
  | none => return

/-- Change the comment markers of the selected lines, or of as many as the count says. -/
def commentLines (change : CommentChange) (context : CommandContext) : CommandM Unit := do
  let lines := (← get).linesActedOn context.count
  CommandM.forLines lines (commentOneLine change)
  CommandM.setMode .normal
  CommandM.change fun editor => editor.setCursor (editor.buffer.firstNonBlank lines.first)

/-- Insert a text and go on inserting behind it. -/
def insertAndGoOn (place : Nat) (text : List Char) : CommandM Unit := do
  CommandM.insert place text
  CommandM.setCursor (place + text.length)
  CommandM.setMode .insert

/-- Begin a comment behind the line. -/
def commentLineEnd : CommandM Unit := do
  let editor ← get
  insertAndGoOn (editor.buffer.lineEnd editor.currentLine)
    (' ' :: editor.grammar.commentMarker ++ [' '])

/-- Turn the rest of the line into a comment. -/
def commentAtCursor : CommandM Unit := do
  let editor ← get
  insertAndGoOn editor.position (editor.grammar.commentMarker ++ [' '])

end ChordEditor.Commands
