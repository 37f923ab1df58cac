import ChordEditor.Proofs.Text.Cuts

namespace ChordEditor.Buffer

/-!
# The order of lines and places

Lines start and end in their order, and places lie on lines in theirs.  The cursor can
lie behind the end of its line: between the CR and the LF of one break.
-/

variable (buffer : Buffer)

theorem clamp_of_le
    {buffer : Buffer}
    {place : Nat}
    (inText : place ≤ buffer.length) :
    buffer.clamp place = place := by
  rw [clamp_eq_min, Nat.min_eq_left inText]

theorem clamp_le (place : Nat) : buffer.clamp place ≤ buffer.length := by
  rw [clamp_eq_min]
  exact Nat.min_le_right _ _

theorem clamp_clamp (place : Nat) : buffer.clamp (buffer.clamp place) = buffer.clamp place :=
  clamp_of_le (buffer.clamp_le place)

theorem lineOf_clamp (place : Nat) : buffer.lineOf (buffer.clamp place) = buffer.lineOf place := by
  rw [lineOf, clamp_clamp, lineOf]

theorem lineOf_le_lastLine (place : Nat) : buffer.lineOf place ≤ buffer.lastLine :=
  Text.lineOfIn_le_breakCount (buffer.clamp_le place)

theorem lineOf_mono
    {first second : Nat}
    (ordered : first ≤ second) :
    buffer.lineOf first ≤ buffer.lineOf second := by
  apply Text.lineOfIn_mono ?_ (buffer.clamp_le second)
  rw [clamp_eq_min, clamp_eq_min]
  omega

theorem lineOf_min (first second : Nat) :
    buffer.lineOf (min first second) = min (buffer.lineOf first) (buffer.lineOf second) := by
  rcases Nat.le_total first second with ordered | ordered
  · rw [Nat.min_eq_left ordered, Nat.min_eq_left (buffer.lineOf_mono ordered)]
  · rw [Nat.min_eq_right ordered, Nat.min_eq_right (buffer.lineOf_mono ordered)]

theorem lineOf_max (first second : Nat) :
    buffer.lineOf (max first second) = max (buffer.lineOf first) (buffer.lineOf second) := by
  rcases Nat.le_total first second with ordered | ordered
  · rw [Nat.max_eq_right ordered, Nat.max_eq_right (buffer.lineOf_mono ordered)]
  · rw [Nat.max_eq_left ordered, Nat.max_eq_left (buffer.lineOf_mono ordered)]

theorem lineStart_mono
    {first second : Nat}
    (ordered : first ≤ second) :
    buffer.lineStart first ≤ buffer.lineStart second := by
  apply Text.lineStartIn_mono
  omega

theorem lineEnd_mono
    {first second : Nat}
    (ordered : first ≤ second) :
    buffer.lineEnd first ≤ buffer.lineEnd second := by
  unfold lineEnd
  dsimp only
  by_cases same : min first buffer.lastLine = min second buffer.lastLine
  · exact Nat.le_of_eq (by rw [same])
  · have ends :
        buffer.lineStart (min first buffer.lastLine) +
            buffer.lineLength (min first buffer.lastLine) ≤
          buffer.lineStart (min first buffer.lastLine + 1) :=
      lineText_le_lineStart_succ (by omega)
    have starts :
        buffer.lineStart (min first buffer.lastLine + 1) ≤
          buffer.lineStart (min second buffer.lastLine) :=
      buffer.lineStart_mono (by omega)
    omega

/-- What is written on a line comes before the end of that line and of those behind it. -/
theorem firstNonBlank_le_lineEnd
    {first last : Nat}
    (ordered : first ≤ last) :
    buffer.firstNonBlank first ≤ buffer.lineEnd last :=
  Nat.le_trans
    (buffer.lineStart_add_le_lineEnd first (Text.length_leadingBlank_le _))
    (buffer.lineEnd_mono ordered)

theorem offsetAt_le (line column : Nat) : buffer.offsetAt line column ≤ buffer.length := by
  have within := buffer.lineEnd_le line
  unfold lineEnd at within
  unfold offsetAt
  dsimp only at within ⊢
  omega

/-- A place lies on a line of the text, which gives the line's start and own text. -/
theorem exists_onLine
    {place : Nat}
    (inText : place ≤ buffer.length) :
    ∃ ended line later,
      Text.OnLine buffer.text place ended line later ∧
        buffer.lineOf place = ended.length ∧
        buffer.lineStart (buffer.lineOf place) = ended.flatten.length ∧
        buffer.lineText (buffer.lineOf place) = Text.withoutReturn line := by
  obtain ⟨ended, line, later, onLine⟩ := Text.exists_onLine inText
  have located := buffer.lineOf_le_lastLine place
  have sameLine : buffer.lineOf place = Text.lineOfIn buffer.text place := by
    rw [lineOf, clamp_of_le inText]
  refine ⟨ended, line, later, onLine, sameLine.trans onLine.lineOf_eq, ?_, ?_⟩
  · unfold lineStart
    rw [Nat.min_eq_left located, sameLine, onLine.lineStart_eq]
  · unfold lineText line?
    rw [sameLine, onLine.found]
    rfl

theorem lineStart_lineOf_le
    {place : Nat}
    (inText : place ≤ buffer.length) :
    buffer.lineStart (buffer.lineOf place) ≤ place := by
  obtain ⟨ended, line, later, onLine, _, start, _⟩ := buffer.exists_onLine inText
  rw [start]
  exact onLine.starts

/-- A place lies behind the end of its line exactly if it splits a break. -/
theorem lineEnd_lineOf_lt_iff
    {place : Nat}
    (inText : place ≤ buffer.length) :
    buffer.lineEnd (buffer.lineOf place) < place ↔
      Text.splitsBreak buffer.text place = true := by
  obtain ⟨ended, line, later, onLine, _, start, text⟩ := buffer.exists_onLine inText
  have own := onLine.own
  unfold lineEnd lineLength
  rw [Nat.min_eq_left (buffer.lineOf_le_lastLine place)]
  dsimp only
  rw [text, start, ← Nat.not_le, own, Bool.not_eq_false]

end ChordEditor.Buffer
