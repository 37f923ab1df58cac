import ChordEditor.Text.Blank
import ChordEditor.Text.Lines
import ChordEditor.Buffer.History

namespace ChordEditor

/-!
# Buffers

A buffer is a text with its edit history.  Places count characters from zero.
Lines and columns count from zero too, and a column never lies behind the LF or CR
that ends its line.  All queries are total: places and lines behind the end are
taken for the last ones.
-/

/-- The lines from `first` to `last`, both included. -/
structure LineRange where
  first : Nat
  last : Nat
  deriving Repr, DecidableEq

namespace LineRange

/--
Join a newly touched range into an earlier one.  An edit on line `touched.first`
that adds `shift` lines moves the end of the earlier range when that lies below it.
-/
def merge (earlier : Option LineRange) (touched : LineRange) (shift : Int) : LineRange :=
  match earlier with
  | none => touched
  | some range =>
      let last :=
        if range.last > touched.first then
          max ((range.last : Int) + shift) touched.first |>.toNat
        else
          range.last
      { first := min range.first touched.first
        last := max last touched.last }

end LineRange

/-- A text and how it came about. -/
structure Buffer where
  text : List Char := []
  /-- How many edits were applied, undone or redone. -/
  version : Nat := 0
  history : History := {}
  /-- Lines touched since they were last asked for. -/
  dirty : Option LineRange := none

namespace Buffer

/-- A buffer that holds a text and has no history. -/
def ofText (text : List Char) : Buffer :=
  { text := text }

/-- The number of characters. -/
def length (buffer : Buffer) : Nat :=
  buffer.text.length

/-- A place, or the end of the text for a place behind it; only the text before it is visited. -/
def clamp (buffer : Buffer) (place : Nat) : Nat :=
  (buffer.text.take place).length

/-- Clamping takes the smaller one of a place and the length. -/
theorem clamp_eq_min
    (buffer : Buffer)
    (place : Nat) :
    buffer.clamp place = min place buffer.length := by
  simp only [clamp, length, List.length_take]

/-- Whether the buffer has no characters. -/
def isEmpty (buffer : Buffer) : Bool :=
  buffer.text.isEmpty

/-- The number of lines; a text that ends with a break has an empty last line. -/
def lineCount (buffer : Buffer) : Nat :=
  Text.lineCount buffer.text

/-- The index of the last line. -/
def lastLine (buffer : Buffer) : Nat :=
  buffer.lineCount - 1

/-- A line's own text, if the line exists. -/
def line? (buffer : Buffer) (line : Nat) : Option (List Char) :=
  (Text.lines buffer.text)[line]?.map Text.withoutReturn

/-- A line's own text, empty if the line does not exist. -/
def lineText (buffer : Buffer) (line : Nat) : List Char :=
  (buffer.line? line).getD []

/-- The own texts of all lines. -/
def lineTexts (buffer : Buffer) : List (List Char) :=
  (Text.lines buffer.text).map Text.withoutReturn

/-- The number of characters of a line's own text. -/
def lineLength (buffer : Buffer) (line : Nat) : Nat :=
  (buffer.lineText line).length

/-- Where a line starts. -/
def lineStart (buffer : Buffer) (line : Nat) : Nat :=
  Text.lineStartIn buffer.text (min line buffer.lastLine)

/-- Where a line's own text ends. -/
def lineEnd (buffer : Buffer) (line : Nat) : Nat :=
  let line := min line buffer.lastLine
  buffer.lineStart line + buffer.lineLength line

/-- The line that holds a place. -/
def lineOf (buffer : Buffer) (place : Nat) : Nat :=
  Text.lineOfIn buffer.text (buffer.clamp place)

/-- How far a place lies behind the start of its line. -/
def columnOf (buffer : Buffer) (place : Nat) : Nat :=
  buffer.clamp place - buffer.lineStart (buffer.lineOf place)

/-- The place at a line and a column. -/
def offsetAt (buffer : Buffer) (line column : Nat) : Nat :=
  let line := min line buffer.lastLine
  buffer.lineStart line + min column (buffer.lineLength line)

/-- The place of the first character of a line that is not blank, or the line's end. -/
def firstNonBlank (buffer : Buffer) (line : Nat) : Nat :=
  buffer.lineStart line + (Text.leadingBlank (buffer.lineText line)).length

/-- The character at a place. -/
def charAt? (buffer : Buffer) (place : Nat) : Option Char :=
  buffer.text[place]?

/-- The text from `start` up to `stop`. -/
def slice (buffer : Buffer) (start stop : Nat) : List Char :=
  (buffer.text.take stop).drop start

/-- Whether an edit group is open. -/
def inGroup (buffer : Buffer) : Bool :=
  buffer.history.inGroup

/-- Whether there is a group to undo. -/
def canUndo (buffer : Buffer) : Bool :=
  !buffer.history.done.isEmpty

/-- The text of the lines from `first` to `last`, each followed by LF. -/
def linesText (buffer : Buffer) (first last : Nat) : List Char :=
  ((buffer.lineTexts.take (last + 1)).drop first).flatMap (· ++ ['\n'])

/-- The last line of a block of `count` lines that starts at `first`. -/
def blockEnd (buffer : Buffer) (first count : Nat) : Nat :=
  min (first + max count 1 - 1) buffer.lastLine

/-- Whether the sum that gives the end of a block of lines is no machine word. -/
def blockOverflows (first count : Nat) : Bool :=
  Text.maxWord64 < first + max count 1

end Buffer

end ChordEditor
