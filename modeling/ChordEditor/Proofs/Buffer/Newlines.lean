import ChordEditor.Proofs.Buffer.OwnText

namespace ChordEditor

/-!
# Buffers whose lines end in LF

In a text where no other character ends a line the own text of a line has no break, every
place lies within the own text of its line or right behind it, and one LF separates a
line from the next one.
-/

namespace Text

/-- No character but LF ends a line. -/
def BrokenByNewlines (text : List Char) : Prop :=
  ∀ c ∈ text, isLineBreak c = true → c = '\n'

instance (text : List Char) : Decidable (BrokenByNewlines text) :=
  List.decidableBAll (fun c => isLineBreak c = true → c = '\n') text

end Text

namespace Buffer

variable {buffer : Buffer} {number place : Nat}

/-- The last line's own text goes to the end of the text. -/
theorem lineEnd_lastLine (buffer : Buffer) :
    buffer.lineEnd buffer.lastLine = buffer.length := by
  obtain ⟨ended, line, later, shape, counted⟩ := exists_shape (Nat.le_refl buffer.lastLine)
  have lineCount := lastLine_of_shape shape
  rw [List.length_append, List.length_cons] at lineCount
  obtain rfl : later = [] := List.length_eq_zero_iff.mp (by omega)
  rw [lineEnd_eq (Nat.le_refl _), ← counted, lineStart_of_shape shape, lineText_of_shape shape,
    Text.own_of_last shape, length, ← Text.flatten_lines buffer.text, shape,
    List.flatten_append, List.length_append, List.flatten_singleton]

/-- A part of the text is put together from its parts. -/
theorem slice_append_slice
    {first middle last : Nat}
    (ordered : first ≤ middle)
    (inOrder : middle ≤ last) :
    buffer.slice first middle ++ buffer.slice middle last = buffer.slice first last := by
  have within : first + (middle - first) ≤ last := by
    omega
  have cut := @take_slice buffer _ _ _ within
  have rest := @drop_slice buffer first last (middle - first)
  rw [Nat.add_sub_cancel' ordered] at cut rest
  rw [← cut, ← rest, List.take_append_drop]

/-- A part of one character. -/
theorem slice_succ
    {c : Char}
    (isThere : buffer.charAt? place = some c) :
    buffer.slice place (place + 1) = [c] := by
  have found : buffer.text[place]? = some c := isThere
  obtain ⟨inText, same⟩ := List.getElem?_eq_some_iff.mp found
  rw [slice, List.drop_take, Nat.add_sub_cancel_left, List.drop_eq_getElem_cons inText, same]
  rfl

/-- The own text of a line, read in the buffer. -/
theorem slice_lineStart_lineEnd (isLine : number ≤ buffer.lastLine) :
    buffer.slice (buffer.lineStart number) (buffer.lineEnd number) = buffer.lineText number := by
  have isOwn := slice_lineStart_add isLine 0 (Nat.le_refl _)
  rw [List.take_length] at isOwn
  rw [lineEnd_eq isLine]
  exact isOwn

section BrokenByNewlines

variable (onlyNewlines : Text.BrokenByNewlines buffer.text)

include onlyNewlines

theorem hasNoBreak_lineText (isLine : number ≤ buffer.lastLine) :
    Text.HasNoBreak (buffer.lineText number) := by
  obtain ⟨ended, line, later, shape, rfl⟩ := exists_shape isLine
  rw [lineText_of_shape shape]
  intro c isOwn
  have noReturn := Text.own_hasNoReturn shape c isOwn
  have inText : c ∈ buffer.text := by
    rw [← Text.flatten_lines buffer.text, shape]
    exact
      List.mem_flatten.mpr
        ⟨line, List.mem_append_right ended List.mem_cons_self,
          (Text.own_isPrefix line).mem isOwn⟩
  rw [Bool.eq_false_iff]
  intro isBreak
  obtain rfl := onlyNewlines c inText isBreak
  contradiction

/-- Behind a line there is one LF, and the next line starts. -/
theorem newline_at_lineEnd (notLast : number < buffer.lastLine) :
    buffer.charAt? (buffer.lineEnd number) = some '\n' ∧
      buffer.lineStart (number + 1) = buffer.lineEnd number + 1 := by
  have isLine := Nat.le_of_lt notLast
  have noBreak := hasNoBreak_lineText onlyNewlines isLine
  obtain ⟨ended, line, later, shape, rfl⟩ := exists_shape isLine
  have counted := lastLine_of_shape shape
  rw [List.length_append, List.length_cons] at counted
  obtain ⟨next, others, rfl⟩ : ∃ next others, later = next :: others :=
    List.exists_cons_of_length_pos (by omega)
  rw [lineText_of_shape shape] at noBreak
  obtain ⟨ending, whole, isEnding⟩ := Text.line_of_plain shape noBreak
  have text :
      buffer.text =
        (ended.flatten ++ Text.withoutReturn line) ++ (ending ++ (next :: others).flatten) := by
    rw [← Text.flatten_lines buffer.text, shape, List.flatten_append, List.flatten_cons,
      List.append_assoc, ← List.append_assoc (Text.withoutReturn line), ← whole]
  have noReturn : '\r' ∉ ending := by
    intro isIn
    have inText : '\r' ∈ buffer.text := by
      rw [text]
      exact List.mem_append_right _ (List.mem_append_left _ isIn)
    exact absurd (onlyNewlines '\r' inText rfl) (by decide)
  obtain rfl : ending = ['\n'] := by
    rcases isEnding with rfl | rfl | rfl | ⟨_, isLast⟩
    · rfl
    · simp at noReturn
    · simp at noReturn
    · contradiction
  have nextShape : Text.lines buffer.text = (ended ++ [line]) ++ next :: others := by
    rw [shape, List.append_assoc]
    rfl
  have nextStart := lineStart_of_shape nextShape
  rw [List.length_append, List.length_singleton, List.flatten_append, List.flatten_singleton,
    List.length_append] at nextStart
  have longer := congrArg List.length whole
  rw [List.length_append, List.length_singleton] at longer
  have ends := lineEnd_eq isLine
  rw [lineStart_of_shape shape, lineText_of_shape shape, ← List.length_append] at ends
  constructor
  · rw [charAt?, ends, text, List.getElem?_append_right (Nat.le_refl _), Nat.sub_self]
    rfl
  · rw [nextStart, ends, List.length_append]
    omega

/-- Later lines end later. -/
theorem lineEnd_lt
    {later : Nat}
    (below : number < later)
    (isLine : later ≤ buffer.lastLine) :
    buffer.lineEnd number < buffer.lineEnd later := by
  have next := (newline_at_lineEnd onlyNewlines (Nat.lt_of_lt_of_le below isLine)).2
  calc
    buffer.lineEnd number < buffer.lineStart (number + 1) := by
      rw [next]
      exact Nat.lt_succ_self _
    _ ≤ buffer.lineStart later := buffer.lineStart_mono below
    _ ≤ buffer.lineEnd later := lineStart_le_lineEnd isLine

/-- What is read up to the next line ends in a LF. -/
theorem slice_lineStart_succ
    (notLast : number < buffer.lastLine)
    (onLine : place ≤ buffer.lineEnd number) :
    buffer.slice place (buffer.lineStart (number + 1)) =
      buffer.slice place (buffer.lineEnd number) ++ ['\n'] := by
  obtain ⟨newline, next⟩ := newline_at_lineEnd onlyNewlines notLast
  rw [next, ← slice_append_slice onLine (Nat.le_succ _), slice_succ newline]

/-- No place lies behind the own text of its line. -/
theorem le_lineEnd_lineOf (inText : place ≤ buffer.length) :
    place ≤ buffer.lineEnd (buffer.lineOf place) := by
  apply Nat.le_of_not_lt
  rw [buffer.lineEnd_lineOf_lt_iff inText, Text.splitsBreak, Text.joinsBreak]
  intro splits
  simp only [Bool.and_eq_true, beq_iff_eq] at splits
  have inText : '\r' ∈ buffer.text :=
    List.mem_of_mem_take (List.mem_of_getLast? splits.1)
  exact absurd (onlyNewlines '\r' inText rfl) (by decide)

/-- A place from the start to the end of a line's own text is on the line. -/
theorem lineOf_of_onLine
    (isLine : number ≤ buffer.lastLine)
    (starts : buffer.lineStart number ≤ place)
    (stops : place ≤ buffer.lineEnd number) :
    buffer.lineOf place = number := by
  rw [lineEnd_eq isLine] at stops
  obtain ⟨column, rfl⟩ := Nat.exists_eq_add_of_le starts
  exact
    lineOf_lineStart_add isLine (Nat.le_of_add_le_add_left stops)
      (.inr (hasNoBreak_lineText onlyNewlines isLine))

/-- The line and the column that a place was asked for by, as far as they exist. -/
theorem lineOf_offsetAt (line column : Nat) :
    buffer.lineOf (buffer.offsetAt line column) = min line buffer.lastLine := by
  have isLine : min line buffer.lastLine ≤ buffer.lastLine :=
    Nat.min_le_right _ _
  apply lineOf_of_onLine onlyNewlines isLine (Nat.le_add_right _ _)
  rw [lineEnd_eq isLine]
  exact Nat.add_le_add_left (Nat.min_le_right _ _) _

theorem columnOf_offsetAt (line column : Nat) :
    buffer.columnOf (buffer.offsetAt line column) =
      min column (buffer.lineLength (min line buffer.lastLine)) := by
  rw [columnOf, lineOf_offsetAt onlyNewlines, clamp_of_le (buffer.offsetAt_le line column)]
  exact Nat.add_sub_cancel_left _ _

/-- The first character of a line that is not blank is on the line, as far as it exists. -/
theorem lineOf_firstNonBlank_eq_min (line : Nat) :
    buffer.lineOf (buffer.firstNonBlank line) = min line buffer.lastLine := by
  have isLine : min line buffer.lastLine ≤ buffer.lastLine :=
    Nat.min_le_right _ _
  have sameStart : buffer.lineStart (min line buffer.lastLine) = buffer.lineStart line := by
    rw [lineStart, Nat.min_assoc, Nat.min_self, lineStart]
  have sameEnd : buffer.lineEnd (min line buffer.lastLine) = buffer.lineEnd line := by
    rw [lineEnd, Nat.min_assoc, Nat.min_self, lineEnd]
  apply lineOf_of_onLine onlyNewlines isLine
  · rw [sameStart]
    exact Nat.le_add_right _ _
  · rw [sameEnd]
    exact buffer.lineStart_add_le_lineEnd line (Text.length_leadingBlank_le _)

/-- No column lies behind the own text of its line. -/
theorem columnOf_le_lineLength (place : Nat) :
    buffer.columnOf place ≤ buffer.lineLength (buffer.lineOf place) := by
  have inText := buffer.clamp_le place
  have sameLine := buffer.lineOf_clamp place
  have onLine := le_lineEnd_lineOf onlyNewlines inText
  rw [sameLine, lineEnd_eq (buffer.lineOf_le_lastLine place)] at onLine
  exact Nat.sub_le_of_le_add (Nat.add_comm _ _ ▸ onLine)

/-- A part of the text from a place on has a LF exactly if it goes behind the place's line. -/
theorem newline_mem_slice_iff
    {stop : Nat}
    (inText : stop ≤ buffer.length)
    (ordered : place ≤ stop) :
    '\n' ∈ buffer.slice place stop ↔ buffer.lineEnd (buffer.lineOf place) < stop := by
  have placeInText := Nat.le_trans ordered inText
  have isLine := buffer.lineOf_le_lastLine place
  have starts := buffer.lineStart_lineOf_le placeInText
  have ends := lineEnd_eq isLine
  have onLine := le_lineEnd_lineOf onlyNewlines placeInText
  constructor
  · intro isIn
    apply Nat.lt_of_not_le
    intro inLine
    obtain ⟨start, isStart⟩ := Nat.exists_eq_add_of_le starts
    obtain ⟨width, isStop⟩ := Nat.exists_eq_add_of_le (Nat.le_trans starts ordered)
    have isPart := slice_lineStart_add isLine start (by omega : width ≤ _)
    rw [← isStart, ← isStop] at isPart
    rw [isPart] at isIn
    have isOwn := List.mem_of_mem_take (List.mem_of_mem_drop isIn)
    exact absurd (hasNoBreak_lineText onlyNewlines isLine '\n' isOwn) (by decide)
  · intro behind
    have notLast : buffer.lineOf place < buffer.lastLine := by
      apply Nat.lt_of_le_of_ne isLine
      intro isLast
      rw [isLast, lineEnd_lastLine] at behind
      omega
    obtain ⟨newline, _⟩ := newline_at_lineEnd onlyNewlines notLast
    rw [← slice_append_slice onLine (Nat.le_of_lt behind),
      ← slice_append_slice (Nat.le_succ _) behind, slice_succ newline]
    simp

end BrokenByNewlines

end Buffer

end ChordEditor
