import ChordEditor.Motion

namespace ChordEditor

/-!
# Places that lines give

The places at which commands change a line lie within the text, and within the line:
where it starts, where its own text ends, and what lies between them.
-/

namespace Text

theorem lineStartIn_le
    (text : List Char)
    (line : Nat) :
    lineStartIn text line ≤ text.length := by
  have parts := congrArg List.length (flatten_lines text)
  rw [← List.take_append_drop line (lines text), List.flatten_append,
    List.length_append] at parts
  unfold lineStartIn
  omega

/-- A line starts where the one before it ends. -/
theorem lineStartIn_succ
    {text own : List Char}
    {line : Nat}
    (found : (lines text)[line]? = some own) :
    lineStartIn text (line + 1) = lineStartIn text line + own.length := by
  unfold lineStartIn
  rw [List.take_add_one, found, List.flatten_append, List.length_append]
  simp

theorem length_withoutReturn_le (line : List Char) :
    (withoutReturn line).length ≤ line.length := by
  unfold withoutReturn
  rw [List.length_reverse]
  exact Nat.le_trans (List.dropWhile_suffix isReturn).length_le
    (Nat.le_of_eq List.length_reverse)

theorem length_trimEnd_le (text : List Char) : (trimEnd text).length ≤ text.length := by
  unfold trimEnd
  rw [List.length_reverse]
  exact Nat.le_trans (List.dropWhile_suffix isBlank).length_le
    (Nat.le_of_eq List.length_reverse)

theorem length_leadingBlank_le (text : List Char) :
    (leadingBlank text).length ≤ text.length :=
  (List.takeWhile_prefix isBlank).length_le

end Text

namespace Buffer

variable (buffer : Buffer) (line : Nat)

theorem lineStart_le : buffer.lineStart line ≤ buffer.length :=
  Text.lineStartIn_le buffer.text _

variable {buffer line}

/-- A line that does not exist has no text. -/
theorem lineText_of_not_exists
    (isBehind : buffer.lineCount ≤ line) :
    buffer.lineText line = [] := by
  unfold lineText line?
  rw [List.getElem?_eq_none isBehind]
  rfl

/-- The own text of a line that exists lies before the next line. -/
theorem lineText_before_next
    (isLine : line < buffer.lineCount) :
    Text.lineStartIn buffer.text line + (buffer.lineText line).length ≤
      Text.lineStartIn buffer.text (line + 1) := by
  have found : (Text.lines buffer.text)[line]? = some (Text.lines buffer.text)[line] :=
    List.getElem?_eq_getElem isLine
  have own : buffer.lineText line = Text.withoutReturn (Text.lines buffer.text)[line] := by
    unfold lineText line?
    rw [found]
    rfl
  rw [Text.lineStartIn_succ found, own]
  exact Nat.add_le_add_left (Text.length_withoutReturn_le _) _

/-- A line other than the last one ends before the next one starts. -/
theorem lineText_le_lineStart_succ
    (isBefore : line < buffer.lastLine) :
    buffer.lineStart line + (buffer.lineText line).length ≤
      buffer.lineStart (line + 1) := by
  unfold lastLine at isBefore
  have isLine : line < buffer.lineCount := by
    omega
  have ends := lineText_before_next isLine
  unfold lineStart lastLine
  rwa [Nat.min_eq_left (by omega), Nat.min_eq_left (by omega)]

variable (buffer line)

/-- A line's own text lies within the text. -/
theorem lineStart_add_lineText_le :
    buffer.lineStart line + (buffer.lineText line).length ≤ buffer.length := by
  by_cases isLine : line < buffer.lineCount
  · have ends := lineText_before_next isLine
    have inText := Text.lineStartIn_le buffer.text (line + 1)
    unfold lineStart lastLine
    rw [Nat.min_eq_left (by omega)]
    exact Nat.le_trans ends inText
  · rw [lineText_of_not_exists (Nat.le_of_not_lt isLine)]
    exact buffer.lineStart_le line

theorem lineEnd_le : buffer.lineEnd line ≤ buffer.length := by
  have within := buffer.lineStart_add_lineText_le (min line buffer.lastLine)
  unfold lineStart at within
  unfold lineEnd lineLength lineStart
  exact within

/-- What a line's own text begins with lies before the line's end. -/
theorem lineStart_add_le_lineEnd
    {length : Nat}
    (fits : length ≤ (buffer.lineText line).length) :
    buffer.lineStart line + length ≤ buffer.lineEnd line := by
  unfold lineEnd lineLength
  by_cases isLine : line < buffer.lineCount
  · have same : min line buffer.lastLine = line := by
      unfold lastLine
      omega
    rw [same]
    exact Nat.add_le_add_left fits _
  · have noText := lineText_of_not_exists (Nat.le_of_not_lt isLine)
    rw [noText] at fits
    have noLength : length = 0 := Nat.le_zero.mp fits
    have same : buffer.lineStart (min line buffer.lastLine) = buffer.lineStart line := by
      unfold lineStart
      rw [Nat.min_assoc, Nat.min_self]
    dsimp only
    omega

theorem firstNonBlank_le : buffer.firstNonBlank line ≤ buffer.length := by
  have within := buffer.lineStart_add_lineText_le line
  have indent := Text.length_leadingBlank_le (buffer.lineText line)
  unfold firstNonBlank
  omega

end Buffer

end ChordEditor
