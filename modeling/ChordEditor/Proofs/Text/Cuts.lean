import ChordEditor.Proofs.Buffer.Places
import ChordEditor.Proofs.Text.Breaks

namespace ChordEditor.Text

/-!
# Lines around a place

A text is the lines that a break has ended and one open line behind them.  Where a text
is cut in two, the open line of the first part goes on with the first line of the second
part, unless the cut splits a CR LF (`lines_append`).  So every place lies on one line,
and within the line's own text unless it splits a CR LF (`exists_onLine`).
-/

/-- What a text has behind its last break. -/
def openLine (text : List Char) : List Char :=
  (lines text).getLast (lines_ne_nil text)

/-- The lines of a text that a break has ended. -/
def endedLines (text : List Char) : List (List Char) :=
  (lines text).dropLast

/-- The lines of a text are the ended ones and the open one. -/
theorem lines_eq (text : List Char) : lines text = endedLines text ++ [openLine text] := by
  unfold endedLines openLine
  rw [List.dropLast_concat_getLast]

@[simp]
theorem openLine_nil : openLine [] = [] := by
  rfl

@[simp]
theorem endedLines_nil : endedLines [] = [] := by
  rfl

@[simp]
theorem length_endedLines (text : List Char) :
    (endedLines text).length = breakCount text := by
  rw [endedLines, List.length_dropLast, length_lines, Nat.add_sub_cancel]

theorem endedLines_cons
    (c : Char)
    (rest : List Char) :
    endedLines (c :: rest) =
      if endsLine c rest then
        [c] :: endedLines rest
      else
        (endedLines rest).modifyHead (c :: ·) := by
  have someLine := lines_ne_nil rest
  unfold endedLines
  rw [lines_cons]
  split
  · exact List.dropLast_cons_of_ne_nil someLine
  · rcases lines rest with _ | ⟨first, _ | ⟨second, more⟩⟩ <;> simp

theorem openLine_cons
    (c : Char)
    (rest : List Char) :
    openLine (c :: rest) =
      if endsLine c rest = false ∧ endedLines rest = [] then
        c :: openLine rest
      else
        openLine rest := by
  have shape := lines_cons c rest
  rw [lines_eq, lines_eq rest, endedLines_cons] at shape
  cases ends : endsLine c rest with
  | true =>
      simpa [ends] using shape
  | false =>
      cases ended : endedLines rest <;> simpa [ends, ended] using shape

/-- The lines of two texts that are put together, if no CR LF comes about. -/
theorem lines_append
    {before after : List Char}
    (apart : joinsBreak before after = false) :
    lines (before ++ after) =
      endedLines before ++ (lines after).modifyHead (openLine before ++ ·) := by
  induction before with
  | nil =>
      cases shape : lines after <;> simp [shape]
  | cons c rest inductionHypothesis =>
      cases rest with
      | nil =>
          have sameEnd : endsLine c after = endsLine c [] := by
            rw [endsLine_eq, endsLine_eq, apart, joinsBreak_nil]
          rw [List.cons_append, List.nil_append, lines_cons, sameEnd, endedLines_cons,
            openLine_cons]
          cases endsLine c [] <;> cases lines after <;> simp
      | cons next later =>
          rw [joinsBreak_cons_cons] at apart
          rw [List.cons_append, lines_cons, endsLine_append, inductionHypothesis apart,
            endedLines_cons c, openLine_cons c]
          cases endsLine c (next :: later) with
          | true =>
              simp only [↓reduceIte, Bool.true_eq_false, false_and, List.cons_append]
          | false =>
              cases endedLines (next :: later) <;> cases lines after <;> simp

/-- Whether no character of a text ends a line. -/
def HasNoBreak (text : List Char) : Prop :=
  ∀ c ∈ text, isLineBreak c = false

@[simp]
theorem hasNoBreak_nil : HasNoBreak [] := by
  simp [HasNoBreak]

@[simp]
theorem hasNoBreak_cons
    (c : Char)
    (rest : List Char) :
    HasNoBreak (c :: rest) ↔ isLineBreak c = false ∧ HasNoBreak rest := by
  simp [HasNoBreak]

theorem HasNoBreak.append
    {first second : List Char}
    (firstNoBreak : HasNoBreak first)
    (secondNoBreak : HasNoBreak second) :
    HasNoBreak (first ++ second) := fun c isIn =>
  (List.mem_append.mp isIn).elim (firstNoBreak c) (secondNoBreak c)

theorem openLine_hasNoBreak (text : List Char) : HasNoBreak (openLine text) := by
  induction text with
  | nil =>
      exact hasNoBreak_nil
  | cons c rest inductionHypothesis =>
      rw [openLine_cons]
      split
      · rename_i goesOn
        -- A break that goes on is a CR, and the LF behind it has ended a line.
        have noBreak : isLineBreak c = false := by
          rcases crlf_or_not c rest with ⟨_, later, rfl⟩ | notCrlf
          · have ended := goesOn.2
            rw [endedLines_cons] at ended
            simp [endsLine, isLineBreak] at ended
          · rw [← endsLine_eq_isLineBreak notCrlf]
            exact goesOn.1
        exact (hasNoBreak_cons _ _).mpr ⟨noBreak, inductionHypothesis⟩
      · exact inductionHypothesis

/-- What is left out of a line's own text comes behind all that has no break. -/
theorem withoutReturn_append
    {text : List Char}
    (noBreak : HasNoBreak text)
    (line : List Char) :
    withoutReturn (text ++ line) = text ++ withoutReturn line := by
  induction text with
  | nil =>
      rfl
  | cons c rest inductionHypothesis =>
      obtain ⟨first, others⟩ := (hasNoBreak_cons _ _).mp noBreak
      have notReturn : isReturn c = false := by
        simp_all [isLineBreak, isReturn]
      rw [List.cons_append, withoutReturn_cons, notReturn, inductionHypothesis others]
      simp

/-- Whether a place lies between the CR and the LF of one break. -/
def splitsBreak (text : List Char) (place : Nat) : Bool :=
  joinsBreak (text.take place) (text.drop place)

/-- A text with its lines cut up before and behind the line that holds a place. -/
structure OnLine
    (text : List Char)
    (place : Nat)
    (ended : List (List Char))
    (line : List Char)
    (later : List (List Char)) : Prop where
  lines_eq : lines text = ended ++ line :: later
  lineOf_eq : lineOfIn text place = ended.length
  starts : ended.flatten.length ≤ place
  /-- The place lies before the next line if there is one. -/
  stops : place < ended.flatten.length + line.length ∨ later = []
  /-- It lies within the line's own text unless it splits a break. -/
  own :
    place ≤ ended.flatten.length + (withoutReturn line).length ↔
      splitsBreak text place = false

theorem length_eq (text : List Char) :
    text.length = (endedLines text).flatten.length + (openLine text).length := by
  have joined := congrArg List.length (flatten_lines text)
  rw [lines_eq, List.flatten_append, List.length_append] at joined
  simpa using joined.symm

/-- Behind a line with nothing in it, not even a break, there is no line. -/
theorem later_eq_nil
    {text : List Char}
    {later : List (List Char)}
    (shape : lines text = [] :: later) :
    later = [] := by
  cases text with
  | nil =>
      simp_all [lines]
  | cons c rest =>
      have someLine := lines_ne_nil rest
      rw [lines_cons] at shape
      split at shape
      · simp at shape
      · cases more : lines rest <;> simp_all

/-- A place that splits no break lies on the open line of what comes before. -/
theorem onLine_of_apart
    {before after first : List Char}
    {later : List (List Char)}
    (apart : joinsBreak before after = false)
    (shape : lines after = first :: later) :
    OnLine (before ++ after) before.length (endedLines before) (openLine before ++ first)
      later := by
  have placed := length_eq before
  have located := lineOfIn_append before after
  exact
    { lines_eq := by
        rw [lines_append apart, shape]
        rfl
      lineOf_eq := by
        rw [length_endedLines]
        simpa [lostBreaks, apart] using located
      starts := by
        omega
      stops := by
        rw [List.length_append]
        cases first with
        | nil =>
            exact .inr (later_eq_nil shape)
        | cons c more =>
            left
            rw [List.length_cons]
            omega
      own := by
        rw [withoutReturn_append (openLine_hasNoBreak before), List.length_append, splitsBreak,
          List.take_left, List.drop_left]
        constructor
        · intro _
          exact apart
        · intro _
          omega }

/-- A place that splits a CR LF lies on the line that this ends, behind the own text. -/
theorem onLine_of_split (before after : List Char) :
    OnLine (before ++ ['\r'] ++ '\n' :: after) (before ++ ['\r']).length (endedLines before)
      (openLine before ++ ['\r', '\n']) (lines after) := by
  have placed := length_eq before
  have apart : joinsBreak before ('\r' :: '\n' :: after) = false := by
    simp [joinsBreak]
  have splits : joinsBreak (before ++ ['\r']) ('\n' :: after) = true := by
    simp [joinsBreak]
  have ownText : withoutReturn (openLine before ++ ['\r', '\n']) = openLine before := by
    rw [withoutReturn_append (openLine_hasNoBreak before)]
    simp [withoutReturn, isReturn]
  exact
    { lines_eq := by
        rw [List.append_assoc]
        exact lines_append apart
      lineOf_eq := by
        have located := lineOfIn_append (before ++ ['\r']) ('\n' :: after)
        have counted := breakCount_append before ['\r']
        have one : breakCount ['\r'] = 1 := rfl
        have noneLost : lostBreaks before ['\r'] = 0 := by
          simp [lostBreaks, joinsBreak]
        rw [lostBreaks, splits, if_pos rfl] at located
        rw [length_endedLines]
        omega
      starts := by
        rw [List.length_append]
        omega
      stops := by
        left
        simp only [List.length_append, List.length_cons, List.length_nil]
        omega
      own := by
        rw [ownText, splitsBreak, List.take_left, List.drop_left, splits, List.length_append,
          List.length_singleton]
        constructor
        · intro _
          omega
        · intro _
          contradiction }

/-- Every place of a text lies on a line. -/
theorem exists_onLine
    {text : List Char}
    {place : Nat}
    (inText : place ≤ text.length) :
    ∃ ended line later, OnLine text place ended line later := by
  have whole := List.take_append_drop place text
  have placed : (text.take place).length = place := by
    rw [List.length_take, Nat.min_eq_left inText]
  generalize text.take place = before at whole placed
  generalize text.drop place = after at whole
  subst whole placed
  cases splits : joinsBreak before after with
  | false =>
      obtain ⟨first, later, shape⟩ := List.exists_cons_of_ne_nil (lines_ne_nil after)
      exact ⟨_, _, _, onLine_of_apart splits shape⟩
  | true =>
      simp only [joinsBreak, Bool.and_eq_true, beq_iff_eq] at splits
      obtain ⟨earlier, rfl⟩ := List.getLast?_eq_some_iff.mp splits.1
      obtain ⟨rest, rfl⟩ := List.head?_eq_some_iff.mp splits.2
      exact ⟨_, _, _, onLine_of_split earlier rest⟩

section Places

variable {text line : List Char} {place : Nat} {ended later : List (List Char)}

theorem OnLine.lineStart_eq (onLine : OnLine text place ended line later) :
    lineStartIn text (lineOfIn text place) = ended.flatten.length := by
  rw [lineStartIn, onLine.lines_eq, onLine.lineOf_eq, List.take_left]

theorem OnLine.found (onLine : OnLine text place ended line later) :
    (lines text)[lineOfIn text place]? = some line := by
  rw [onLine.lines_eq, onLine.lineOf_eq]
  simp

theorem OnLine.breakCount_eq (onLine : OnLine text place ended line later) :
    breakCount text = lineOfIn text place + later.length := by
  have counted := length_lines text
  rw [onLine.lines_eq, List.length_append, List.length_cons] at counted
  rw [onLine.lineOf_eq]
  omega

theorem lineStartIn_mono
    (text : List Char)
    {first second : Nat}
    (ordered : first ≤ second) :
    lineStartIn text first ≤ lineStartIn text second := by
  unfold lineStartIn
  rw [← List.take_append_drop first ((lines text).take second), List.take_take,
    Nat.min_eq_left ordered, List.flatten_append, List.length_append]
  exact Nat.le_add_right _ _

theorem lineOfIn_le_breakCount (inText : place ≤ text.length) :
    lineOfIn text place ≤ breakCount text := by
  obtain ⟨ended, line, later, onLine⟩ := exists_onLine inText
  have counted := onLine.breakCount_eq
  omega

theorem lineStartIn_lineOfIn_le (inText : place ≤ text.length) :
    lineStartIn text (lineOfIn text place) ≤ place := by
  obtain ⟨ended, line, later, onLine⟩ := exists_onLine inText
  rw [onLine.lineStart_eq]
  exact onLine.starts

theorem lt_lineStartIn_succ
    (inText : place ≤ text.length)
    (notLast : lineOfIn text place < breakCount text) :
    place < lineStartIn text (lineOfIn text place + 1) := by
  obtain ⟨ended, line, later, onLine⟩ := exists_onLine inText
  have counted := onLine.breakCount_eq
  rw [lineStartIn_succ onLine.found, onLine.lineStart_eq]
  rcases onLine.stops with before | isLast
  · exact before
  · rw [isLast, List.length_nil] at counted
    omega

/-- A place from the start of a line on and before the next one lies on that line. -/
theorem lineOfIn_eq
    {number : Nat}
    (inText : place ≤ text.length)
    (starts : lineStartIn text number ≤ place)
    (isLine : number ≤ breakCount text)
    (stops : place < lineStartIn text (number + 1) ∨ number = breakCount text) :
    lineOfIn text place = number := by
  have located := lineOfIn_le_breakCount inText
  rcases Nat.lt_trichotomy (lineOfIn text place) number with before | same | behind
  · have next := lt_lineStartIn_succ inText (by omega)
    have ordered : lineStartIn text (lineOfIn text place + 1) ≤ lineStartIn text number :=
      lineStartIn_mono text before
    omega
  · exact same
  · have start := lineStartIn_lineOfIn_le inText
    have ordered : lineStartIn text (number + 1) ≤ lineStartIn text (lineOfIn text place) :=
      lineStartIn_mono text behind
    omega

/-- A place that is given by a line and a column of it lies on that line. -/
theorem onLine_of_shape
    {column : Nat}
    (shape : lines text = ended ++ line :: later)
    (onLine : column ≤ line.length)
    (stops : column < line.length ∨ later = []) :
    OnLine text (ended.flatten.length + column) ended line later := by
  have whole := congrArg List.length (flatten_lines text)
  rw [shape, List.flatten_append, List.flatten_cons, List.length_append,
    List.length_append] at whole
  have inText : ended.flatten.length + column ≤ text.length := by
    omega
  have starts : lineStartIn text ended.length = ended.flatten.length := by
    rw [lineStartIn, shape, List.take_left]
  have found : (lines text)[ended.length]? = some line := by
    rw [shape]
    simp
  have counted := length_lines text
  rw [shape, List.length_append, List.length_cons] at counted
  have located : lineOfIn text (ended.flatten.length + column) = ended.length := by
    apply lineOfIn_eq inText (by omega) (by omega)
    rw [lineStartIn_succ found]
    rcases stops with before | isLast
    · left
      omega
    · right
      rw [isLast, List.length_nil] at counted
      omega
  obtain ⟨ended', line', later', isOn⟩ := exists_onLine inText
  have sameLength : ended'.length = ended.length := isOn.lineOf_eq.symm.trans located
  obtain ⟨rfl, behind⟩ := List.append_inj (isOn.lines_eq.symm.trans shape) sameLength
  obtain ⟨rfl, rfl⟩ := List.cons.inj behind
  exact isOn

theorem lineOfIn_mono
    {first second : Nat}
    (ordered : first ≤ second)
    (inText : second ≤ text.length) :
    lineOfIn text first ≤ lineOfIn text second := by
  apply Nat.le_of_not_lt
  intro reversed
  have start := lineStartIn_lineOfIn_le (Nat.le_trans ordered inText)
  have located := lineOfIn_le_breakCount (Nat.le_trans ordered inText)
  have next := lt_lineStartIn_succ inText (by omega)
  have starts :
      lineStartIn text (lineOfIn text second + 1) ≤
        lineStartIn text (lineOfIn text first) :=
    lineStartIn_mono text reversed
  omega

end Places

end ChordEditor.Text
