import ChordEditor.Proofs.Buffer.OwnText

namespace ChordEditor.Buffer

/-!
# Places and their addresses

A place has an address: the line that holds it, and a column.  The lines, each with the
break that ends it, are the text from its front to its end (`linesPartition`), so the
address of a place leads back to the place.  Only the place between the CR and the LF of
one break has no address of its own: columns end where the own text of a line does, and
there its address leads to (`offsetAt_lineOf_columnOf`).
-/

/-- Where a line ends with its break: where the next one starts, or at the text's end. -/
def lineStop (buffer : Buffer) (line : Nat) : Nat :=
  if line < buffer.lastLine then buffer.lineStart (line + 1) else buffer.length

/-- The text of a line with the break that ends it. -/
def wholeLine (buffer : Buffer) (line : Nat) : List Char :=
  buffer.slice (buffer.lineStart line) (buffer.lineStop line)

/-- The lines make up the text in their order, and they end where the text has breaks. -/
structure LinesPartition (buffer : Buffer) : Prop where
  joined : (List.range buffer.lineCount).flatMap buffer.wholeLine = buffer.text
  ended :
    ∀ line < buffer.lastLine,
      ∃ body ending,
        buffer.wholeLine line = body ++ ending ∧ Text.HasNoBreak body ∧ Text.IsBreak ending
  last : Text.HasNoBreak (buffer.wholeLine buffer.lastLine)
  /-- No line starts between a CR and a LF. -/
  apart :
    ∀ line ≤ buffer.lastLine, Text.splitsBreak buffer.text (buffer.lineStart line) = false

variable {buffer : Buffer} {place : Nat}

section Shape

variable
  {line : List Char}
  {ended later : List (List Char)}
  (shape : Text.lines buffer.text = ended ++ line :: later)

include shape

theorem lineStop_of_shape :
    buffer.lineStop ended.length = ended.flatten.length + line.length := by
  have counted := lastLine_of_shape shape
  rw [List.length_append, List.length_cons] at counted
  unfold lineStop
  cases later with
  | nil =>
      rw [List.length_nil] at counted
      rw [if_neg (by omega), length, ← Text.flatten_lines buffer.text, shape]
      simp
  | cons next others =>
      have nextShape : Text.lines buffer.text = (ended ++ [line]) ++ next :: others := by
        rw [shape, List.append_assoc, List.singleton_append]
      have nextStart := lineStart_of_shape nextShape
      rw [List.length_append, List.length_singleton] at nextStart
      rw [List.length_cons] at counted
      rw [if_pos (by omega), nextStart]
      simp

theorem wholeLine_of_shape : buffer.wholeLine ended.length = line := by
  rw [wholeLine, lineStart_of_shape shape, lineStop_of_shape shape, slice,
    ← Text.flatten_lines buffer.text, shape, List.flatten_append, List.flatten_cons,
    List.take_length_add_append, List.take_left, List.drop_left]

end Shape

/-- The lines with their breaks are the lines of the text. -/
theorem map_wholeLine (buffer : Buffer) :
    (List.range buffer.lineCount).map buffer.wholeLine = Text.lines buffer.text := by
  apply List.ext_getElem
  · rw [List.length_map, List.length_range, lineCount, Text.lineCount]
  · intro number inRange isLine
    obtain ⟨ended, line, later, shape, rfl, _⟩ := Text.exists_shape_of_lt isLine
    rw [List.getElem_map, List.getElem_range, wholeLine_of_shape shape]
    simp [shape]

theorem linesPartition (buffer : Buffer) : buffer.LinesPartition := by
  constructor
  · rw [List.flatMap_def, map_wholeLine, Text.flatten_lines]
  · intro number notLast
    obtain ⟨ended, line, later, shape, rfl⟩ := exists_shape (Nat.le_of_lt notLast)
    obtain ⟨body, ending, rfl, noBreak, isBreak | ⟨_, rfl⟩⟩ := Text.exists_body shape
    · exact ⟨body, ending, wholeLine_of_shape shape, noBreak, isBreak⟩
    · rw [lastLine_of_shape shape, List.length_append, List.length_singleton] at notLast
      omega
  · obtain ⟨ended, line, later, shape, isLast⟩ :=
      exists_shape (Nat.le_refl buffer.lastLine)
    have noLater : later = [] := by
      have counted := lastLine_of_shape shape
      rw [List.length_append, List.length_cons] at counted
      exact List.length_eq_zero_iff.mp (by omega)
    rw [noLater] at shape
    rw [← isLast, wholeLine_of_shape shape]
    exact Text.hasNoBreak_of_last shape
  · intro number isLine
    obtain ⟨ended, line, later, shape, rfl⟩ := exists_shape isLine
    have cut := Text.cutBetween shape (List.cons_ne_nil line later)
    have parts : buffer.text = ended.flatten ++ (line :: later).flatten := by
      rw [← List.flatten_append, ← shape, Text.flatten_lines]
    rw [lineStart_of_shape shape, Text.splitsBreak, parts, List.take_left, List.drop_left]
    exact cut.apart

/-- A place lies on a line from its start on, and before the next line. -/
theorem lineOf_eq_iff
    {number : Nat}
    (inText : place ≤ buffer.length)
    (isLine : number ≤ buffer.lastLine) :
    buffer.lineOf place = number ↔
      buffer.lineStart number ≤ place ∧
        (place < buffer.lineStop number ∨ number = buffer.lastLine) := by
  have starts := le_lineOf_iff isLine inText
  have located := buffer.lineOf_le_lastLine place
  unfold lineStop
  rcases Nat.lt_or_eq_of_le isLine with notLast | isLast
  · have next :
        number + 1 ≤ buffer.lineOf place ↔ buffer.lineStart (number + 1) ≤ place :=
      le_lineOf_iff notLast inText
    rw [if_pos notLast]
    omega
  · omega

/-- The address of a place leads to it, or to the end of its line if that comes before. -/
theorem offsetAt_address (inText : place ≤ buffer.length) :
    buffer.offsetAt (buffer.lineOf place) (buffer.columnOf place) =
      min place (buffer.lineEnd (buffer.lineOf place)) := by
  have whole := lineStart_add_columnOf inText
  have ends := lineEnd_eq (buffer.lineOf_le_lastLine place)
  rw [offsetAt, Nat.min_eq_left (buffer.lineOf_le_lastLine place), lineLength]
  omega

/--
The lines are the text cut behind its breaks.  Places lie on them in their order, and each
place is found again by its line and column, but for one between a CR and a LF, which
leads to the end of its line.
-/
theorem offsetAt_lineOf_columnOf (buffer : Buffer) :
    buffer.LinesPartition ∧
      (∀ first second, first ≤ second → buffer.lineOf first ≤ buffer.lineOf second) ∧
      ∀ place ≤ buffer.length,
        (∀ line ≤ buffer.lastLine,
          buffer.lineOf place = line ↔
            buffer.lineStart line ≤ place ∧
              (place < buffer.lineStop line ∨ line = buffer.lastLine)) ∧
        buffer.offsetAt (buffer.lineOf place) (buffer.columnOf place) =
          if Text.splitsBreak buffer.text place then
            buffer.lineEnd (buffer.lineOf place)
          else
            place := by
  refine ⟨buffer.linesPartition, fun _ _ => buffer.lineOf_mono, ?_⟩
  intro place inText
  refine ⟨fun line isLine => lineOf_eq_iff inText isLine, ?_⟩
  rw [offsetAt_address inText]
  have splits := buffer.lineEnd_lineOf_lt_iff inText
  split
  · rename_i isSplit
    exact Nat.min_eq_right (Nat.le_of_lt (splits.mpr isSplit))
  · rename_i notSplit
    exact Nat.min_eq_left (Nat.le_of_not_lt fun behind => notSplit (splits.mp behind))

/-- Between the CR and the LF that end a line there is only the address of the line's end. -/
theorem address_within_return :
    let buffer := ofText "a\r\n\u2028b".toList
    2 ≤ buffer.length ∧
      buffer.lineOf 2 = 0 ∧ buffer.columnOf 2 = 2 ∧ buffer.offsetAt 0 2 = 1 := by
  intro buffer
  have inText : 2 ≤ buffer.length := by
    decide
  have found := ((offsetAt_lineOf_columnOf buffer).2.2 2 inText).2
  exact ⟨inText, rfl, rfl, found⟩

end ChordEditor.Buffer
