import ChordEditor.Text.Lines

namespace ChordEditor.Text

/-!
# Lines of a joined text

A CR right before a LF ends no line of its own, so the lines of a text follow from
one equation for its first character (`lines_cons`).  From it come the facts that
hold wherever a text is cut in two: the finished lines of the first part and all but
the first line of the second part keep their own text, and the breaks of the parts
add up unless the cut splits a CR LF.
-/

/-- Whether a character ends a line when a text follows it. -/
def endsLine (c : Char) (rest : List Char) : Bool :=
  isLineBreak c && !(c == '\r' && rest.head? == some '\n')

/-- The own texts of the lines of a text. -/
def ownLines (text : List Char) : List (List Char) :=
  (lines text).map withoutReturn

/-- Whether a CR LF lies across the place where two texts meet. -/
def joinsBreak (before after : List Char) : Bool :=
  before.getLast? == some '\r' && after.head? == some '\n'

/-- How many breaks are lost when two texts are put together. -/
def lostBreaks (before after : List Char) : Nat :=
  if joinsBreak before after then 1 else 0

/-- A character and the text behind it are a CR LF at the front, or they are not. -/
theorem crlf_or_not
    (c : Char)
    (rest : List Char) :
    (c = '\r' ∧ ∃ later, rest = '\n' :: later) ∨
      ∀ later, c = '\r' → rest = '\n' :: later → False := by
  by_cases found : c = '\r' ∧ ∃ later, rest = '\n' :: later
  · exact .inl found
  · exact .inr fun later isReturn shape => found ⟨isReturn, later, shape⟩

/-- A character that is no CR before a LF ends a line if it is a break. -/
theorem endsLine_eq_isLineBreak
    {c : Char}
    {rest : List Char}
    (notCrlf : ∀ later, c = '\r' → rest = '\n' :: later → False) :
    endsLine c rest = isLineBreak c := by
  cases rest with
  | nil =>
      simp [endsLine]
  | cons next later =>
      by_cases isReturn : c = '\r'
      · have notNewline : next ≠ '\n' := by
          intro isNewline
          exact notCrlf later isReturn (by rw [isNewline])
        simp [endsLine, notNewline]
      · simp [endsLine, isReturn]

/-- The lines of a text, by its first character. -/
theorem lines_cons
    (c : Char)
    (rest : List Char) :
    lines (c :: rest) =
      if endsLine c rest then
        [c] :: lines rest
      else
        (lines rest).modifyHead (c :: ·) := by
  rcases crlf_or_not c rest with ⟨rfl, later, rfl⟩ | notCrlf
  · simp [lines, endsLine, isLineBreak]
  · rw [lines.eq_3 c rest notCrlf, endsLine_eq_isLineBreak notCrlf]
    split
    · rfl
    · split
      · exact absurd ‹_› (lines_ne_nil rest)
      · rename_i shape
        simp [shape]

/-- The line that holds a place behind the first character. -/
theorem lineOfIn_cons
    (c : Char)
    (rest : List Char)
    (place : Nat) :
    lineOfIn (c :: rest) (place + 1) =
      if endsLine c rest then lineOfIn rest place + 1 else lineOfIn rest place := by
  rcases crlf_or_not c rest with ⟨rfl, later, rfl⟩ | notCrlf
  · cases place <;> simp [lineOfIn, endsLine, isLineBreak]
  · rw [endsLine_eq_isLineBreak notCrlf,
      lineOfIn.eq_5 c rest place
        (fun later isReturn shape _ => notCrlf later isReturn shape)
        (fun later _ isReturn shape _ => notCrlf later isReturn shape)]

/-- Only the first character of what follows decides whether a line ends. -/
theorem endsLine_append
    (c next : Char)
    (rest after : List Char) :
    endsLine c (next :: rest ++ after) = endsLine c (next :: rest) := by
  simp [endsLine]

/-- A single character ends a line exactly if it is a break that is not split from a LF. -/
theorem endsLine_eq
    (c : Char)
    (after : List Char) :
    endsLine c after = (isLineBreak c && !joinsBreak [c] after) := by
  simp [endsLine, joinsBreak]

@[simp]
theorem joinsBreak_nil (before : List Char) : joinsBreak before [] = false := by
  simp [joinsBreak]

/-- A character that joins a break is a CR, and a LF is behind it. -/
theorem crlf_of_joinsBreak
    {c : Char}
    {after : List Char}
    (joined : joinsBreak [c] after = true) :
    c = '\r' ∧ ∃ later, after = '\n' :: later := by
  cases after with
  | nil =>
      simp at joined
  | cons next later =>
      simp_all [joinsBreak]

@[simp]
theorem lostBreaks_nil (after : List Char) : lostBreaks [] after = 0 := by
  simp [lostBreaks, joinsBreak]

@[simp]
theorem joinsBreak_cons_cons
    (c next : Char)
    (rest after : List Char) :
    joinsBreak (c :: next :: rest) after = joinsBreak (next :: rest) after := by
  rw [joinsBreak, List.getLast?_cons_cons]
  rfl

@[simp]
theorem lostBreaks_cons_cons
    (c next : Char)
    (rest after : List Char) :
    lostBreaks (c :: next :: rest) after = lostBreaks (next :: rest) after := by
  simp only [lostBreaks, joinsBreak_cons_cons]

/-- There is one line more than there are breaks. -/
theorem length_lines (text : List Char) : (lines text).length = breakCount text + 1 := by
  have someLine : 0 < (lines text).length :=
    List.length_pos_iff.mpr (lines_ne_nil text)
  unfold breakCount lineCount
  omega

/-- There are as many own texts as lines. -/
@[simp]
theorem length_ownLines (text : List Char) : (ownLines text).length = breakCount text + 1 := by
  rw [ownLines, List.length_map, length_lines]

@[simp]
theorem breakCount_nil : breakCount [] = 0 := by
  rfl

/-- The breaks of a text, by its first character. -/
theorem breakCount_cons
    (c : Char)
    (rest : List Char) :
    breakCount (c :: rest) = breakCount rest + if endsLine c rest then 1 else 0 := by
  have counted := length_lines (c :: rest)
  rw [lines_cons] at counted
  split at counted
  all_goals
    simp_all [length_lines]

/-- The breaks of two parts add up, except for one that lies across the cut. -/
theorem breakCount_append
    (before after : List Char) :
    breakCount (before ++ after) + lostBreaks before after =
      breakCount before + breakCount after := by
  induction before with
  | nil =>
      simp
  | cons c rest inductionHypothesis =>
      cases rest with
      | nil =>
          simp only [List.cons_append, List.nil_append, breakCount_cons,
            endsLine_eq, lostBreaks, breakCount_nil, joinsBreak_nil]
          cases joined : joinsBreak [c] after with
          | true =>
              simp [(crlf_of_joinsBreak joined).1, isLineBreak]
              omega
          | false =>
              simp
              omega
      | cons next later =>
          rw [List.cons_append, breakCount_cons, breakCount_cons c (next :: later),
            endsLine_append, lostBreaks_cons_cons]
          omega

/-- The own text of a line, by its first character. -/
theorem withoutReturn_cons
    (c : Char)
    (line : List Char) :
    withoutReturn (c :: line) =
      if withoutReturn line = [] ∧ isReturn c = true then
        []
      else
        c :: withoutReturn line := by
  unfold withoutReturn
  rw [List.reverse_cons, List.dropWhile_append]
  by_cases finished : line.reverse.dropWhile isReturn = []
  · by_cases returns : isReturn c = true <;>
      simp [finished, returns]
  · simp [finished]

/-- There is always a line. -/
theorem ownLines_ne_nil (text : List Char) : ownLines text ≠ [] := by
  simp [ownLines, lines_ne_nil]

/-- A character in front of the own text of the first line. -/
def putInFront
    (c : Char)
    (own : List (List Char)) : List (List Char) :=
  own.modifyHead fun line => if line = [] ∧ isReturn c = true then [] else c :: line

/-- The own texts of the lines, by the first character of a text. -/
theorem ownLines_cons
    (c : Char)
    (rest : List Char) :
    ownLines (c :: rest) =
      if endsLine c rest then
        withoutReturn [c] :: ownLines rest
      else
        putInFront c (ownLines rest) := by
  unfold ownLines putInFront
  rw [lines_cons]
  split
  · rfl
  · cases shape : lines rest with
    | nil =>
        exact absurd shape (lines_ne_nil rest)
    | cons line others =>
        simp [withoutReturn_cons]

/-- A character in front of the first line leaves a common beginning of lines common. -/
theorem putInFront_dropLast_isPrefix
    (c : Char)
    {finished longer : List (List Char)}
    (common : finished.dropLast <+: longer) :
    (putInFront c finished).dropLast <+: putInFront c longer := by
  cases finished with
  | nil =>
      exact List.nil_prefix
  | cons line others =>
      cases others with
      | nil =>
          exact List.nil_prefix
      | cons second more =>
          obtain ⟨rest, rfl⟩ := common
          simp [putInFront]

/-- The lines that a text has finished keep their own text, whatever follows. -/
theorem ownLines_dropLast_isPrefix
    (before after : List Char) :
    (ownLines before).dropLast <+: ownLines (before ++ after) := by
  induction before with
  | nil =>
      exact List.nil_prefix
  | cons c rest inductionHypothesis =>
      rw [List.cons_append, ownLines_cons, ownLines_cons]
      cases rest with
      | nil =>
          cases joined : joinsBreak [c] after with
          | true =>
              obtain ⟨rfl, later, rfl⟩ := crlf_of_joinsBreak joined
              simp [endsLine_eq, joined, putInFront, isReturn, isLineBreak,
                withoutReturn, ownLines, lines]
          | false =>
              rw [List.nil_append, endsLine_eq, endsLine_eq, joined, joinsBreak_nil]
              split
              · simp [ownLines, lines]
              · simp [ownLines, lines, putInFront]
      | cons next later =>
          rw [endsLine_append]
          split
          · rw [List.dropLast_cons_of_ne_nil (ownLines_ne_nil _)]
            exact List.cons_prefix_cons.mpr ⟨rfl, inductionHypothesis⟩
          · exact putInFront_dropLast_isPrefix c inductionHypothesis

/-- The lines after the first one keep their own text, whatever goes before. -/
theorem ownLines_tail_suffix
    (before after : List Char) :
    (ownLines after).tail <:+ (ownLines (before ++ after)).tail := by
  induction before with
  | nil =>
      exact List.suffix_refl _
  | cons c rest inductionHypothesis =>
      rw [List.cons_append, ownLines_cons]
      split
      · exact inductionHypothesis.trans (List.tail_suffix _)
      · unfold putInFront
        rw [List.tail_modifyHead]
        exact inductionHypothesis

/-- A place that is cut off lies on the last line before it, unless it splits a CR LF. -/
theorem lineOfIn_append
    (before after : List Char) :
    lineOfIn (before ++ after) before.length + lostBreaks before after =
      breakCount before := by
  induction before with
  | nil =>
      cases after <;> simp [lineOfIn]
  | cons c rest inductionHypothesis =>
      rw [List.cons_append, List.length_cons, lineOfIn_cons]
      cases rest with
      | nil =>
          simp only [List.nil_append, List.length_nil, endsLine_eq, lostBreaks,
            breakCount_cons, breakCount_nil, joinsBreak_nil, lineOfIn]
          cases joined : joinsBreak [c] after with
          | true =>
              simp [(crlf_of_joinsBreak joined).1, isLineBreak]
          | false =>
              simp
      | cons next later =>
          rw [endsLine_append, lostBreaks_cons_cons, breakCount_cons]
          split <;> omega

end ChordEditor.Text
