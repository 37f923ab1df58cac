import ChordEditor.Proofs.Buffer.Blocks
import ChordEditor.Proofs.Text.Rows

namespace ChordEditor.Buffer

/-!
# Rows taken for lines

The buffer is asked for a column of a row as if the row were a line.  What it answers lies
on that line or at its end, so it is the place that was meant only if that is on the line
with the number of the row, or where this line ends with a break that is neither LF nor CR.
-/

variable {buffer : Buffer}

/-- The place at a column of a line, or at the end of its own text. -/
theorem offsetAt_of_shape
    {ended later : List (List Char)}
    {line : List Char}
    (shape : Text.lines buffer.text = ended ++ line :: later)
    (column : Nat) :
    buffer.offsetAt ended.length column =
      ended.flatten.length + min column (Text.withoutReturn line).length := by
  have isLine : ended.length ≤ buffer.lastLine := by
    rw [lastLine_of_shape shape, List.length_append, List.length_cons]
    omega
  unfold offsetAt lineLength
  dsimp only
  rw [Nat.min_eq_left isLine, lineStart_of_shape shape, lineText_of_shape shape]

variable {before after : List Char}

/-- Where only LF ends lines before a place, its row is its line. -/
theorem offsetAt_row_of_onlyNewlines
    (cut : buffer.text = before ++ after)
    (apart : Text.joinsBreak before after = false)
    (onlyNewlines : Text.OnlyNewlines before) :
    buffer.offsetAt (before.count '\n') (Text.openRow before).length = before.length := by
  obtain ⟨first, later, behind⟩ := List.exists_cons_of_ne_nil (Text.lines_ne_nil after)
  have shape :
      Text.lines buffer.text =
        Text.endedLines before ++ (Text.openLine before ++ first) :: later := by
    rw [cut, Text.lines_append apart, behind]
    rfl
  have line : before.count '\n' = (Text.endedLines before).length := by
    rw [Text.length_endedLines, onlyNewlines]
  have placed := Text.length_eq before
  rw [line, onlyNewlines.openRow_eq, offsetAt_of_shape shape,
    Text.withoutReturn_append (Text.openLine_hasNoBreak before), List.length_append]
  omega

/-- Behind one other break the row is the line before, with the break as its last character. -/
theorem offsetAt_row_of_endsWithOtherBreak
    (cut : buffer.text = before ++ after)
    (apart : Text.joinsBreak before after = false)
    (endsOtherwise : Text.EndsWithOtherBreak before) :
    buffer.offsetAt (before.count '\n') (Text.openRow before).length = before.length := by
  obtain ⟨front, c, rfl, onlyNewlines, isBreak, noReturn⟩ := endsOtherwise
  have notNewline : c ≠ '\n' := by
    rintro rfl
    contradiction
  have ended := (Text.lines_concat notNewline front).1
  rw [if_pos isBreak] at ended
  have shape :
      Text.lines buffer.text =
        Text.endedLines front ++ (Text.openLine front ++ [c]) ::
          (Text.lines after).modifyHead (Text.openLine (front ++ [c]) ++ ·) := by
    rw [cut, Text.lines_append apart, ended, List.append_assoc]
    rfl
  have line : (front ++ [c]).count '\n' = (Text.endedLines front).length := by
    rw [Text.length_endedLines, onlyNewlines, List.count_append,
      List.count_singleton]
    simp [notNewline]
  have ownBreak : Text.withoutReturn [c] = [c] := by
    simp [Text.withoutReturn, noReturn]
  have placed := Text.length_eq front
  rw [line, Text.openRow_concat notNewline, onlyNewlines.openRow_eq, offsetAt_of_shape shape,
    Text.withoutReturn_append (Text.openLine_hasNoBreak front), ownBreak, Nat.min_self,
    List.length_append, List.length_append, List.length_singleton]
  omega

/-- With other breaks before it, the place of its row is its own only right behind one. -/
theorem endsWithOtherBreak_of_offsetAt_row
    (cut : buffer.text = before ++ after)
    (apart : Text.joinsBreak before after = false)
    (otherBreaks : ¬ Text.OnlyNewlines before)
    (arrives :
      buffer.offsetAt (before.count '\n') (Text.openRow before).length = before.length) :
    Text.EndsWithOtherBreak before := by
  have fewerRows : before.count '\n' < (Text.endedLines before).length := by
    have counted := Text.count_newline_le_breakCount before
    rw [Text.length_endedLines]
    unfold Text.OnlyNewlines at otherBreaks
    omega
  -- The row is the number of a line that a break before the place has ended.
  have someLeft : (Text.endedLines before).drop (before.count '\n') ≠ [] :=
    fun none => Nat.not_le_of_lt fewerRows (List.drop_eq_nil_iff.mp none)
  obtain ⟨line, more, rest⟩ := List.exists_cons_of_ne_nil someLeft
  have row := List.length_take_of_le (Nat.le_of_lt fewerRows)
  have parts := (List.take_append_drop (before.count '\n') (Text.endedLines before)).symm
  rw [rest] at parts
  generalize (Text.endedLines before).take (before.count '\n') = ended at row parts
  have isEnded {other : List Char} (isIn : other ∈ line :: more) : 0 < other.length := by
    apply List.length_pos_iff.mpr
    apply Text.ne_nil_of_mem_endedLines
    rw [parts]
    exact List.mem_append_right ended isIn
  have shape :
      Text.lines buffer.text =
        ended ++ line ::
          (more ++ (Text.lines after).modifyHead (Text.openLine before ++ ·)) := by
    rw [cut, Text.lines_append apart, parts, List.append_assoc]
    rfl
  rw [← row, offsetAt_of_shape shape] at arrives
  have placed := Text.length_eq before
  have ownWithin := Text.length_withoutReturn_le line
  have someLine := isEnded List.mem_cons_self
  rw [parts, List.flatten_append, List.flatten_cons, List.length_append,
    List.length_append] at placed
  have noMore : more = [] := by
    cases more with
    | nil =>
        rfl
    | cons next others =>
        have someNext := isEnded (List.mem_cons_of_mem line List.mem_cons_self)
        rw [List.flatten_cons, List.length_append] at placed
        omega
  have someRow : Text.openRow before ≠ [] := by
    intro noRow
    rw [noRow, List.length_nil, Nat.zero_min] at arrives
    omega
  exact
    Text.endsWithOtherBreak_of_parts (noMore ▸ parts)
      (List.eq_nil_of_length_eq_zero (by omega)) someRow row (by omega)

/--
The row and column of a place give that place exactly if only LF ends lines before it, but
for one other break that it may stand right behind.
-/
theorem offsetAt_row_iff
    (cut : buffer.text = before ++ after)
    (apart : Text.joinsBreak before after = false) :
    buffer.offsetAt (before.count '\n') (Text.openRow before).length = before.length ↔
      Text.OnlyNewlines before ∨ Text.EndsWithOtherBreak before := by
  constructor
  · intro arrives
    by_cases onlyNewlines : Text.OnlyNewlines before
    · exact .inl onlyNewlines
    · exact .inr (endsWithOtherBreak_of_offsetAt_row cut apart onlyNewlines arrives)
  · rintro (onlyNewlines | endsOtherwise)
    · exact offsetAt_row_of_onlyNewlines cut apart onlyNewlines
    · exact offsetAt_row_of_endsWithOtherBreak cut apart endsOtherwise

end ChordEditor.Buffer
