import ChordEditor.Commands.Insert
import ChordEditor.Commands.Run
import ChordEditor.Text.Bytes

namespace ChordEditor.Commands

/-!
# Numbers that are no machine words

Commands calculate with numbers of any size.  Where numbers are machine words, a sum or a
product that is too large, and a difference below zero, stop the program, and so does a
text for which no memory can be asked.  Here is said which commands come to that on an
editor.

A count may be any number.  Taken to be machine words are places and numbers of lines, which
the memory that a text takes bounds, the line behind a window, and what a tab width makes of
the indentation of a line, with one tab width more.
-/

/-- Whether so many units of indentation are too many spaces to make, or to take away. -/
def unitsOverflow (editor : Editor) (right : Bool) (units : Nat) : Bool :=
  let most := if right then Text.maxBytes else Text.maxWord64
  most < editor.settings.tabWidth * units

/-- Whether the lines that a count takes have no end, if they are not selected. -/
def linesOverflow (editor : Editor) (context : CommandContext) : Bool :=
  !editor.mode.isVisual && Buffer.blockOverflows editor.currentLine context.count

/-- Whether a selection is shifted by more units than can be; blank lines are not indented. -/
def shiftOverflows (editor : Editor) (right : Bool) (context : CommandContext) : Bool :=
  if editor.mode.isVisual then
    let lines := editor.selectedLines
    let texts := (editor.buffer.lineTexts.take (lines.last + 1)).drop lines.first
    let shifted := !right || texts.any fun text => !Text.isBlankText text
    shifted && unitsOverflow editor right context.count
  else
    Buffer.blockOverflows editor.currentLine context.count

/--
Whether the captured character is written too often, or the cursor is put before the text:
behind none it goes one place back.
-/
def replaceOverflows (editor : Editor) (context : CommandContext) : Bool :=
  let stop := editor.position + context.count
  !context.literals.isEmpty && (Text.maxWord64 < stop || stop = 0)

/--
Whether the register is pasted too often, or the cursor is put before the text: behind no
characters it goes one place back.
-/
def pasteOverflows (editor : Editor) (context : CommandContext) : Bool :=
  let register := editor.register
  let bytes := Text.byteLength register.text * context.count
  !register.isEmpty &&
    (Text.maxBytes < bytes ||
      (!register.linewise && editor.position + register.text.length * context.count = 0))

/-- Whether an action comes to a number that is no machine word. -/
def actionOverflows (editor : Editor) (context : CommandContext) : Action → Bool
  | .move motion | .delete motion | .change motion | .yank motion =>
      motion.overflows editor.buffer editor.position (motionArgs editor context)
  | .deleteLines | .changeLines | .yankLines =>
      Buffer.blockOverflows editor.currentLine context.count
  | .comment _ => linesOverflow editor context
  | .indent => shiftOverflows editor true context
  | .outdent => shiftOverflows editor false context
  | .deleteChar | .substituteChar => Text.maxWord64 < editor.position + context.count
  | .replaceChar => replaceOverflows editor context
  | .paste _ => pasteOverflows editor context
  | _ => false

/-- Whether a line gets longer when a unit of its indentation is taken away. -/
def outdentOverflows (editor : Editor) : Bool :=
  let line := editor.currentLine
  let outdented := ((outdentLine line 1).run.run editor).2
  editor.buffer.lineLength line < outdented.buffer.lineLength line

/-- Whether a key of insert mode comes to a number that is no machine word. -/
def insertKeyOverflows (editor : Editor) : InsertKey → Bool
  | .outdent => outdentOverflows editor
  | .move motion =>
      motion.overflows editor.buffer editor.position { jumpLines := editor.settings.jumpLines }
  | _ => false

end ChordEditor.Commands
