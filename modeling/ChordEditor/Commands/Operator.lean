import ChordEditor.Commands.Basic

namespace ChordEditor.Commands

/-!
# Delete, change and yank

Operators act on the span of a motion, on whole lines, or on the selection.  What they
delete goes to the register; whole lines are stored with a LF behind each of them.
-/

/-- Delete a span of characters; nothing is stored if there are none. -/
def deleteSpan (span : Span) : CommandM Unit := do
  unless span.isEmpty do
    let text ← CommandM.delete span
    CommandM.store text false
  CommandM.setCursor span.start

/-- Delete whole lines. -/
def deleteLineBlock (lines : LineRange) : CommandM Unit := do
  let buffer := (← get).buffer
  let _ ← CommandM.delete (buffer.lineSpan lines.first lines.last)
  CommandM.store (buffer.linesText lines.first lines.last) true
  CommandM.change fun editor =>
    editor.setCursor (editor.buffer.firstNonBlank (min lines.first editor.buffer.lastLine))

/-- Empty whole lines into one that keeps the first one's indentation, and insert there. -/
def changeLineBlock (lines : LineRange) : CommandM Unit := do
  let buffer := (← get).buffer
  let start := buffer.firstNonBlank lines.first
  let _ ← CommandM.delete ⟨start, buffer.lineEnd lines.last⟩
  CommandM.store (buffer.linesText lines.first lines.last) true
  CommandM.setCursor start
  CommandM.setMode .insert

/-- Yank whole lines. -/
def yankLineBlock (lines : LineRange) : CommandM Unit := do
  let buffer := (← get).buffer
  CommandM.store (buffer.linesText lines.first lines.last) true

/-- The arguments of a motion of the operator. -/
def motionArgs (editor : Editor) (context : CommandContext) : MotionArgs :=
  context.motionArgs editor.settings.jumpLines

/-- The lines that a linewise motion covers from the cursor. -/
def motionLines (editor : Editor) (motion : Motion) (context : CommandContext) : LineRange :=
  motion.linesCovered editor.buffer editor.position (motionArgs editor context)

/-- The span that a motion covers from the cursor. -/
def motionSpan (editor : Editor) (motion : Motion) (context : CommandContext) : Span :=
  motion.operatorSpan editor.buffer editor.position (motionArgs editor context)

/-- Delete as far as a motion goes. -/
def deleteTowards (motion : Motion) (context : CommandContext) : CommandM Unit := do
  let editor ← get
  if motion.isLinewise then
    deleteLineBlock (motionLines editor motion context)
  else
    deleteSpan (motionSpan editor motion context)

/-- Delete as far as a motion goes, and insert there. -/
def changeTowards (motion : Motion) (context : CommandContext) : CommandM Unit := do
  let editor ← get
  if motion.isLinewise then
    changeLineBlock (motionLines editor motion context)
  else
    deleteSpan (motionSpan editor motion context)
    CommandM.setMode .insert

/-- Yank as far as a motion goes; the cursor goes to the start of characters yanked. -/
def yankTowards (motion : Motion) (context : CommandContext) : CommandM Unit := do
  let editor ← get
  if motion.isLinewise then
    yankLineBlock (motionLines editor motion context)
  else
    let span := motionSpan editor motion context
    CommandM.store (editor.buffer.spanText span) false
    CommandM.setCursor span.start

/-- The lines from that of the cursor on that a count takes. -/
def countedLines (editor : Editor) (context : CommandContext) : LineRange :=
  ⟨editor.currentLine, editor.buffer.blockEnd editor.currentLine context.count⟩

/-- Delete as many lines as the count says. -/
def deleteLines (context : CommandContext) : CommandM Unit := do
  deleteLineBlock (countedLines (← get) context)

/-- Change as many lines as the count says. -/
def changeLines (context : CommandContext) : CommandM Unit := do
  changeLineBlock (countedLines (← get) context)

/-- Yank as many lines as the count says. -/
def yankLines (context : CommandContext) : CommandM Unit := do
  yankLineBlock (countedLines (← get) context)

/-- Delete to the end of the line, and the blanks that this leaves at its end. -/
def deleteToLineEnd : CommandM Unit := do
  let editor ← get
  let place := editor.position
  let line := editor.currentLine
  let removed ← CommandM.delete ⟨place, editor.buffer.lineEnd line⟩
  unless removed.isEmpty do
    CommandM.store removed false
  let buffer := (← get).buffer
  let kept := buffer.lineStart line + (Text.trimEnd (buffer.lineText line)).length
  let _ ← CommandM.delete ⟨kept, buffer.lineEnd line⟩
  CommandM.setCursor (min place kept)

/-- Delete the selection. -/
def deleteSelection : CommandM Unit := do
  match (← get).selection with
  | .lines first last => deleteLineBlock ⟨first, last⟩
  | .chars span => deleteSpan span
  CommandM.setMode .normal

/-- Delete the selection and insert there. -/
def changeSelection : CommandM Unit := do
  match (← get).selection with
  | .lines first last => changeLineBlock ⟨first, last⟩
  | .chars span =>
      deleteSpan span
      CommandM.setMode .insert

/-- Yank the selection; the cursor goes to its start. -/
def yankSelection : CommandM Unit := do
  let editor ← get
  match editor.selection with
  | .lines first last =>
      yankLineBlock ⟨first, last⟩
      CommandM.setCursor (editor.buffer.firstNonBlank first)
  | .chars span =>
      CommandM.store (editor.buffer.spanText span) false
      CommandM.setCursor span.start
  CommandM.setMode .normal

end ChordEditor.Commands
