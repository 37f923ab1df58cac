import ChordEditor.Cursor
import ChordEditor.Motion

namespace ChordEditor

/-!
# Windows

A window is a cursor and the part of a buffer that is in view.  It holds no text:
every operation takes the buffer it looks at.

The height of a view is taken to be so small that it makes a machine word with the number
of any line.
-/

/-- A cursor and a view of some height. -/
structure Window where
  cursor : Cursor := {}
  /-- The first line in view. -/
  scroll : Nat := 0
  /-- The number of lines in view. -/
  height : Nat
  /-- The column that vertical motions keep. -/
  preferredColumn : Option Nat := none
  deriving Repr, DecidableEq

namespace Window

/-- A window at the start of a text; it has at least one line. -/
def ofHeight (height : Nat) : Window :=
  { height := max height 1 }

/-- Put the cursor at a place and drop the selection. -/
def setCursor (window : Window) (buffer : Buffer) (place : Nat) : Window :=
  { window with
    cursor := .atPlace (buffer.clamp place)
    preferredColumn := none }

/-- Select the text between an anchor and a place. -/
def setSelection
    (window : Window)
    (buffer : Buffer)
    (anchor place : Nat) : Window :=
  { window with
    cursor := ⟨buffer.clamp anchor, buffer.clamp place⟩
    preferredColumn := none }

/-- The line of the cursor. -/
def line (window : Window) (buffer : Buffer) : Nat :=
  buffer.lineOf window.cursor.position

/-- The column of the cursor. -/
def column (window : Window) (buffer : Buffer) : Nat :=
  buffer.columnOf window.cursor.position

/-- Keep the cursor inside the text. -/
def clampCursor (window : Window) (buffer : Buffer) : Window :=
  { window with cursor := window.cursor.clamp buffer.length }

/-- Scroll no further than needed to have the cursor in view. -/
def showCursor (window : Window) (buffer : Buffer) : Window :=
  let line := window.line buffer
  if line < window.scroll then
    { window with scroll := line }
  else if line ≥ window.scroll + window.height then
    { window with scroll := line + 1 - window.height }
  else
    window

/-- Move the cursor; vertical motions keep the column they started from. -/
def moveCursor
    (window : Window)
    (buffer : Buffer)
    (motion : Motion)
    (args : MotionArgs)
    (extend : Bool) : Window :=
  let column :=
    if motion.isVertical then
      some (window.preferredColumn.getD (window.column buffer))
    else
      none
  let arrival := motion.target buffer window.cursor.position { args with column }
  { window with
    cursor := window.cursor.moveTo arrival extend
    preferredColumn := column }.showCursor buffer

/-- Move the cursor in machine words, if the motion arrives somewhere. -/
def moveCursor?
    (window : Window)
    (buffer : Buffer)
    (motion : Motion)
    (args : MotionArgs)
    (extend : Bool) : Option Window :=
  if motion.overflows buffer window.cursor.position args then
    none
  else
    some (window.moveCursor buffer motion args extend)

/-- Put the line of the cursor in the middle of the view. -/
def centerOnCursor (window : Window) (buffer : Buffer) : Window :=
  { window with scroll := window.line buffer - window.height / 2 }

/-- Scroll down, or up by a negative number; the cursor is pulled back into view. -/
def scrollBy (window : Window) (buffer : Buffer) (lines : Int) : Window :=
  let scroll := min (window.scroll + lines).toNat (buffer.lineCount - 1)
  let line := window.line buffer
  let clamped := min (max line scroll) (scroll + window.height - 1)
  if clamped = line then
    { window with scroll }
  else
    { window with
      scroll
      cursor := .atPlace (buffer.offsetAt clamped (window.column buffer)) }

/-- The first line in view, and the line below the last one. -/
def visibleLines (window : Window) (buffer : Buffer) : Nat × Nat :=
  (window.scroll, min (window.scroll + window.height) buffer.lineCount)

end Window

end ChordEditor
