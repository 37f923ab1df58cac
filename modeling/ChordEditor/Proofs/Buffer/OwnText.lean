import ChordEditor.Proofs.Buffer.Blocks

namespace ChordEditor

/-!
# The own text of a line in its buffer

The own text of a line stands in the buffer from where the line starts, so what is read
there can be read in the own text.  A place lies on a line or behind it exactly if the
line does not start behind the place (`le_lineOf_iff`).

The end of the own text is on the line as well, unless the own text has a break.  VT,
FF, NEL, LS and PS are not left out of it, and behind them the next line starts.
-/

namespace Text

/-- A break in the own text of a line is the end of the line, and another line follows. -/
theorem own_of_hasBreak
    {text line : List Char}
    {ended later : List (List Char)}
    (shape : lines text = ended ++ line :: later)
    (hasBreak : ¬ HasNoBreak (withoutReturn line)) :
    withoutReturn line = line ∧ later ≠ [] := by
  obtain ⟨body, ending, rfl, noBreak, isEnding⟩ := exists_body shape
  rw [withoutReturn_append noBreak] at hasBreak ⊢
  have isOther : ∃ c, ending = [c] ∧ isReturn c = false := by
    rcases isEnding with (rfl | ⟨c, _, rfl⟩) | ⟨rfl, _⟩
    · simp [withoutReturn, isReturn, noBreak] at hasBreak
    · cases returns : isReturn c with
      | true =>
          simp [withoutReturn, returns, noBreak] at hasBreak
      | false =>
          exact ⟨c, rfl, returns⟩
    · simp [withoutReturn, noBreak] at hasBreak
  obtain ⟨c, rfl, noReturn⟩ := isOther
  have whole : withoutReturn [c] = [c] := by
    simp [withoutReturn, noReturn]
  rw [whole] at hasBreak ⊢
  refine ⟨rfl, ?_⟩
  rintro rfl
  exact hasBreak (hasNoBreak_of_last shape)

/-- Nothing comes behind a break in the own text of a line. -/
theorem length_own_le_of_isLineBreak
    {text line : List Char}
    {ended later : List (List Char)}
    {index : Nat}
    {c : Char}
    (shape : lines text = ended ++ line :: later)
    (isHere : (withoutReturn line)[index]? = some c)
    (isBreak : isLineBreak c = true) :
    (withoutReturn line).length ≤ index + 1 := by
  obtain ⟨body, ending, rfl, noBreak, isEnding⟩ := exists_body shape
  rw [withoutReturn_append noBreak] at isHere ⊢
  have short : (withoutReturn ending).length ≤ 1 := by
    rcases isEnding with (rfl | ⟨other, _, rfl⟩) | ⟨rfl, _⟩
    · simp [withoutReturn, isReturn]
    · cases returns : isReturn other <;> simp [withoutReturn, returns]
    · simp [withoutReturn]
  have behindBody : body.length ≤ index := by
    apply Nat.le_of_not_lt
    intro inBody
    rw [List.getElem?_append_left inBody] at isHere
    rw [noBreak c (List.mem_of_getElem? isHere)] at isBreak
    contradiction
  rw [List.length_append]
  omega

/-- The blanks at the start are as long as every part at the start that is all blank. -/
theorem le_length_leadingBlank_iff
    {text : List Char}
    {count : Nat}
    (inText : count ≤ text.length) :
    count ≤ (leadingBlank text).length ↔ isBlankText (text.take count) = true := by
  unfold leadingBlank isBlankText
  induction text generalizing count with
  | nil =>
      simp_all
  | cons c rest inductionHypothesis =>
      cases count with
      | zero =>
          simp
      | succ count =>
          have others := inductionHypothesis (Nat.le_of_succ_le_succ inText)
          by_cases blank : isBlank c = true <;> simp [blank, others]

/-- A text is all blank exactly if it is no longer than the blanks at its start. -/
theorem length_le_leadingBlank_iff (text : List Char) :
    text.length ≤ (leadingBlank text).length ↔ isBlankText text = true := by
  rw [le_length_leadingBlank_iff (Nat.le_refl _), List.take_length]

end Text

namespace Buffer

variable {buffer : Buffer} {number place : Nat}

/-- What a part of the text starts with. -/
theorem take_slice
    {start stop count : Nat}
    (within : start + count ≤ stop) :
    (buffer.slice start stop).take count = buffer.slice start (start + count) := by
  rw [slice, slice, List.take_drop, List.take_take, Nat.min_eq_left within]

/-- What a part of the text ends with. -/
theorem drop_slice (start stop count : Nat) :
    (buffer.slice start stop).drop count = buffer.slice (start + count) stop := by
  rw [slice, slice, List.drop_drop]

/-- A character of a part of the text is one of the text. -/
theorem getElem?_slice
    {start stop index : Nat}
    (within : start + index < stop) :
    (buffer.slice start stop)[index]? = buffer.charAt? (start + index) := by
  rw [slice, List.getElem?_drop, List.getElem?_take_of_lt within, charAt?]

theorem length_slice_le (start stop : Nat) :
    (buffer.slice start stop).length ≤ stop - start := by
  rw [slice, List.length_drop, List.length_take]
  omega

/-- The lines of a buffer cut up before and behind one of them. -/
theorem exists_shape (isLine : number ≤ buffer.lastLine) :
    ∃ ended line later,
      Text.lines buffer.text = ended ++ line :: later ∧ ended.length = number := by
  have someLine := List.length_pos_iff.mpr (Text.lines_ne_nil buffer.text)
  have counted : buffer.lastLine = (Text.lines buffer.text).length - 1 := lastLine_of_shape rfl
  have inLines : number < (Text.lines buffer.text).length := by
    omega
  obtain ⟨ended, line, later, shape, isNumber, _⟩ := Text.exists_shape_of_lt inLines
  exact ⟨ended, line, later, shape, isNumber⟩

/-- From where a line starts the buffer goes on with the own text of the line. -/
theorem exists_drop_lineStart (isLine : number ≤ buffer.lastLine) :
    ∃ behind,
      buffer.text.drop (buffer.lineStart number) = buffer.lineText number ++ behind := by
  obtain ⟨ended, line, later, shape, rfl⟩ := exists_shape isLine
  obtain ⟨ending, whole⟩ := Text.own_isPrefix line
  refine ⟨ending ++ later.flatten, ?_⟩
  rw [lineStart_of_shape shape, lineText_of_shape shape, ← Text.flatten_lines buffer.text, shape,
    List.flatten_append, List.drop_left, List.flatten_cons, ← List.append_assoc, whole]

/-- A part of a line's own text, read in the buffer. -/
theorem slice_lineStart_add
    (isLine : number ≤ buffer.lastLine)
    (start : Nat)
    {stop : Nat}
    (inOwn : stop ≤ (buffer.lineText number).length) :
    buffer.slice (buffer.lineStart number + start) (buffer.lineStart number + stop) =
      ((buffer.lineText number).take stop).drop start := by
  obtain ⟨behind, isOwn⟩ := exists_drop_lineStart isLine
  have width :
      buffer.lineStart number + stop - (buffer.lineStart number + start) = stop - start := by
    omega
  rw [slice, List.drop_take, ← List.drop_drop, isOwn, List.drop_take, width,
    ← List.drop_take, List.take_append_of_le_length inOwn, List.drop_take]

theorem lineEnd_eq (isLine : number ≤ buffer.lastLine) :
    buffer.lineEnd number = buffer.lineStart number + (buffer.lineText number).length := by
  unfold lineEnd
  rw [Nat.min_eq_left isLine]
  rfl

/-- A new text of a line's own takes the place of the old one in its line. -/
theorem exists_replaced_own
    (isLine : number < (Text.lines buffer.text).length)
    (piece : List Char) :
    ∃ changed,
      buffer.replace (buffer.lineStart number) (buffer.lineEnd number) piece =
          .ok (buffer.lineText number, changed) ∧
        changed.text =
          ((Text.lines buffer.text).modify number fun line =>
            piece ++ line.drop (Text.withoutReturn line).length).flatten := by
  obtain ⟨ended, line, later, shape, rfl, modified⟩ := Text.exists_shape_of_lt isLine
  have inLines : ended.length ≤ buffer.lastLine := by
    rw [lastLine_of_shape rfl]
    omega
  have whole := List.prefix_iff_eq_append.mp (Text.own_isPrefix line)
  have cutUp :
      buffer.text =
        ended.flatten ++ Text.withoutReturn line ++
          (line.drop (Text.withoutReturn line).length ++ later.flatten) := by
    rw [← Text.flatten_lines buffer.text, shape, List.flatten_append, List.flatten_cons,
      List.append_assoc, ← List.append_assoc (Text.withoutReturn line), whole]
  obtain ⟨changed, replaced, text⟩ := exists_replaced_part cutUp piece
  refine ⟨changed, ?_, ?_⟩
  · rw [lineEnd_eq inLines, lineStart_of_shape shape, lineText_of_shape shape]
    exact replaced
  · rw [text, modified, List.flatten_append, List.flatten_cons, List.append_assoc,
      List.append_assoc]

theorem lineStart_le_lineEnd (isLine : number ≤ buffer.lastLine) :
    buffer.lineStart number ≤ buffer.lineEnd number := by
  rw [lineEnd_eq isLine]
  exact Nat.le_add_right _ _

theorem lt_lineStart_succ
    (inText : place ≤ buffer.length)
    (notLast : buffer.lineOf place < buffer.lastLine) :
    place < buffer.lineStart (buffer.lineOf place + 1) := by
  have located : buffer.lineOf place = Text.lineOfIn buffer.text place := by
    rw [lineOf, clamp_of_le inText]
  unfold lineStart
  rw [Nat.min_eq_left notLast]
  rw [located] at notLast ⊢
  exact Text.lt_lineStartIn_succ inText notLast

/-- The line and the column of a place give the place as far as it is one of the text. -/
theorem lineStart_add_columnOf_eq_clamp
    (buffer : Buffer)
    (place : Nat) :
    buffer.lineStart (buffer.lineOf place) + buffer.columnOf place = buffer.clamp place := by
  have starts := buffer.lineStart_lineOf_le (buffer.clamp_le place)
  rw [buffer.lineOf_clamp] at starts
  exact Nat.add_sub_cancel' starts

/-- The column of a place is counted from where its line starts. -/
theorem lineStart_add_columnOf (inText : place ≤ buffer.length) :
    buffer.lineStart (buffer.lineOf place) + buffer.columnOf place = place := by
  rw [lineStart_add_columnOf_eq_clamp, clamp_of_le inText]

/-- A place lies on a line or behind it exactly if the line starts there or before. -/
theorem le_lineOf_iff
    (isLine : number ≤ buffer.lastLine)
    (inText : place ≤ buffer.length) :
    number ≤ buffer.lineOf place ↔ buffer.lineStart number ≤ place := by
  constructor
  · intro behind
    exact Nat.le_trans (buffer.lineStart_mono behind) (buffer.lineStart_lineOf_le inText)
  · intro starts
    apply Nat.le_of_not_lt
    intro before
    have next := lt_lineStart_succ inText (by omega)
    have ordered : buffer.lineStart (buffer.lineOf place + 1) ≤ buffer.lineStart number :=
      buffer.lineStart_mono before
    omega

theorem lineOf_zero (buffer : Buffer) : buffer.lineOf 0 = 0 := by
  rw [lineOf, clamp_of_le (Nat.zero_le buffer.length)]
  simp [Text.lineOfIn]

theorem lineOf_length (buffer : Buffer) : buffer.lineOf buffer.length = buffer.lastLine :=
  Nat.le_antisymm (buffer.lineOf_le_lastLine buffer.length)
    ((le_lineOf_iff (Nat.le_refl _) (Nat.le_refl _)).mpr (buffer.lineStart_le buffer.lastLine))

/-- A place that lies before another one, but not before its line, is on the same line. -/
theorem lineOf_of_between
    {earlier : Nat}
    (inText : place ≤ buffer.length)
    (starts : buffer.lineStart (buffer.lineOf place) ≤ earlier)
    (before : earlier ≤ place) :
    buffer.lineOf earlier = buffer.lineOf place := by
  apply Nat.le_antisymm (buffer.lineOf_mono before)
  exact
    (le_lineOf_iff (buffer.lineOf_le_lastLine place) (Nat.le_trans before inText)).mpr starts

/-- A column of the own text is on the line; its end is if the own text has no break. -/
theorem lineOf_lineStart_add
    (isLine : number ≤ buffer.lastLine)
    {column : Nat}
    (inOwn : column ≤ (buffer.lineText number).length)
    (stops :
      column < (buffer.lineText number).length ∨ Text.HasNoBreak (buffer.lineText number)) :
    buffer.lineOf (buffer.lineStart number + column) = number := by
  obtain ⟨ended, line, later, shape, rfl⟩ := exists_shape isLine
  have ownWithin := Text.length_withoutReturn_le line
  rw [lineText_of_shape shape] at inOwn stops
  rw [lineStart_of_shape shape]
  apply lineOf_of_shape shape (Nat.le_trans inOwn ownWithin)
  rcases stops with before | noBreak
  · left
    omega
  · obtain ⟨ending, whole, isEnding⟩ := Text.line_of_plain shape noBreak
    have longer := congrArg List.length whole
    rw [List.length_append] at longer
    rcases isEnding with rfl | rfl | rfl | ⟨_, isLast⟩
    · left
      rw [List.length_singleton] at longer
      omega
    · left
      rw [List.length_singleton] at longer
      omega
    · left
      rw [List.length_cons] at longer
      omega
    · exact .inr isLast

/-- A place of the own text is on the line. -/
theorem lineOf_of_inside
    (isLine : number ≤ buffer.lastLine)
    (starts : buffer.lineStart number ≤ place)
    (stops : place < buffer.lineEnd number) :
    buffer.lineOf place = number := by
  rw [lineEnd_eq isLine] at stops
  obtain ⟨column, rfl⟩ := Nat.exists_eq_add_of_le starts
  have inOwn : column < (buffer.lineText number).length := by
    omega
  exact lineOf_lineStart_add isLine (Nat.le_of_lt inOwn) (.inl inOwn)

/-- Where the own text has a break the next line starts at its end. -/
theorem lineEnd_of_hasBreak
    (isLine : number ≤ buffer.lastLine)
    (hasBreak : ¬ Text.HasNoBreak (buffer.lineText number)) :
    number < buffer.lastLine ∧ buffer.lineEnd number = buffer.lineStart (number + 1) := by
  obtain ⟨ended, line, later, shape, rfl⟩ := exists_shape isLine
  rw [lineText_of_shape shape] at hasBreak
  obtain ⟨whole, someLater⟩ := Text.own_of_hasBreak shape hasBreak
  obtain ⟨next, others, rfl⟩ := List.exists_cons_of_ne_nil someLater
  have counted := lastLine_of_shape shape
  have nextShape : Text.lines buffer.text = (ended ++ [line]) ++ next :: others := by
    rw [shape, List.append_assoc]
    rfl
  have nextStart := lineStart_of_shape nextShape
  rw [List.length_append, List.length_singleton, List.flatten_append, List.flatten_singleton,
    List.length_append] at nextStart
  constructor
  · rw [counted, List.length_append, List.length_cons, List.length_cons]
    omega
  · rw [lineEnd_eq isLine, lineStart_of_shape shape, lineText_of_shape shape, whole, nextStart]

/-- Where the own text has a break its end is not on the line. -/
theorem lineOf_lineEnd_iff (isLine : number ≤ buffer.lastLine) :
    buffer.lineOf (buffer.lineEnd number) = number ↔
      Text.HasNoBreak (buffer.lineText number) := by
  constructor
  · intro onLine
    apply Classical.byContradiction
    intro hasBreak
    obtain ⟨notLast, next⟩ := lineEnd_of_hasBreak isLine hasBreak
    have behind := (le_lineOf_iff notLast (buffer.lineEnd_le number)).mpr (Nat.le_of_eq next.symm)
    omega
  · intro noBreak
    rw [lineEnd_eq isLine]
    exact lineOf_lineStart_add isLine (Nat.le_refl _) (.inr noBreak)

end Buffer

end ChordEditor
