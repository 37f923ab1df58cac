import ChordEditor.Proofs.Text.Blocks
import ChordEditor.Proofs.Text.Replacing

namespace ChordEditor.Text

/-!
# Lines in which a needle is replaced

A needle without breaks lies in the own text of one line.  So what is replaced in the own
text is replaced in the line with the break that ends it, and what is replaced everywhere
line by line is replaced everywhere in the text.

A line that has been dealt with may begin with a LF that the replacement brought in.
Behind a line that ends with CR this makes a CR LF, which changes neither where that line
starts nor its own text (`exists_line_before`).
-/

/-- Lines that are put together with a needle replaced in each of them. -/
inductive LinesReplaced
    (everywhere : Bool)
    (needle replacement : List Char) : List (List Char) → List Char → Nat → Prop where
  | nil :
      LinesReplaced everywhere needle replacement [] [] 0
  | cons
      {line result text : List Char}
      {lines : List (List Char)}
      {count number : Nat}
      (first : Replaced everywhere needle replacement line result count)
      (others : LinesReplaced everywhere needle replacement lines text number) :
      LinesReplaced everywhere needle replacement (line :: lines) (result ++ text)
        (count + number)

variable
  {everywhere : Bool}
  {needle replacement text line result other : List Char}
  {earlier later block : List (List Char)}
  {count number : Nat}

/-- What is replaced in some lines, and how often, is settled. -/
theorem LinesReplaced.unique
    (replaced : LinesReplaced everywhere needle replacement block result count)
    (again : LinesReplaced everywhere needle replacement block other number) :
    other = result ∧ number = count := by
  induction replaced generalizing other number with
  | nil =>
      cases again
      exact ⟨rfl, rfl⟩
  | cons first _ inductionHypothesis =>
      cases again with
      | cons second behind =>
          obtain ⟨rfl, rfl⟩ := first.unique second
          obtain ⟨rfl, rfl⟩ := inductionHypothesis behind
          exact ⟨rfl, rfl⟩

/-- A line behind others is dealt with like them. -/
theorem LinesReplaced.concat
    (replaced : LinesReplaced everywhere needle replacement block text count)
    (last : Replaced everywhere needle replacement line result number) :
    LinesReplaced everywhere needle replacement (block ++ [line]) (text ++ result)
      (count + number) := by
  induction replaced with
  | nil =>
      have alone := LinesReplaced.cons last .nil
      rw [List.append_nil, Nat.add_zero] at alone
      rw [Nat.zero_add]
      exact alone
  | cons first _ inductionHypothesis =>
      rw [List.append_assoc, Nat.add_assoc]
      exact .cons first inductionHypothesis

/-- The own text of a line comes before LF and CR alone. -/
theorem exists_returns (line : List Char) :
    ∃ returns, line = withoutReturn line ++ returns ∧ ∀ c ∈ returns, isReturn c = true := by
  refine ⟨(line.reverse.takeWhile isReturn).reverse, ?_, ?_⟩
  · unfold withoutReturn
    rw [← List.reverse_append, List.takeWhile_append_dropWhile, List.reverse_reverse]
  · intro c isIn
    exact List.all_eq_true.mp List.all_takeWhile c (List.mem_reverse.mp isIn)

theorem isLineBreak_of_isReturn
    {c : Char}
    (returns : isReturn c = true) :
    isLineBreak c = true := by
  simp only [isReturn, Bool.or_eq_true, beq_iff_eq] at returns
  rcases returns with rfl | rfl <;> rfl

/-- What is replaced in the own text of a line is replaced in the line. -/
theorem Replaced.in_line
    (replaced : Replaced everywhere needle replacement (withoutReturn line) result count)
    (someNeedle : needle ≠ [])
    (noBreak : HasNoBreak needle) :
    ∃ returns,
      line = withoutReturn line ++ returns ∧
        Replaced everywhere needle replacement line (result ++ returns) count := by
  obtain ⟨returns, whole, areReturns⟩ := exists_returns line
  have notIn : ∀ c ∈ returns, c ∉ needle := by
    intro c isIn inNeedle
    have isBreak := isLineBreak_of_isReturn (areReturns c isIn)
    rw [noBreak c inNeedle] at isBreak
    contradiction
  have absent : ¬ needle <:+: returns := by
    intro occurs
    obtain ⟨c, rest, rfl⟩ := List.exists_cons_of_ne_nil someNeedle
    exact notIn c (occurs.subset List.mem_cons_self) List.mem_cons_self
  have noneAcross : NoneAcross needle (withoutReturn line) returns :=
    noneAcross_of_head fun c isFirst => notIn c (List.mem_of_head? isFirst)
  refine ⟨returns, whole, ?_⟩
  have together := replaced.append_absent absent noneAcross
  rwa [← whole] at together

/-- No needle without breaks lies across the end of a line. -/
theorem noneAcross_of_line
    (shape : lines text = line :: later)
    (noBreak : HasNoBreak needle) :
    NoneAcross needle line later.flatten := by
  have isFirst : lines text = [] ++ line :: later := shape
  obtain ⟨body, ending, rfl, _, isBreak | ⟨_, rfl⟩⟩ := exists_body isFirst
  · apply noneAcross_of_last
    intro c isLast isIn
    have notBreak := noBreak c isIn
    rcases isBreak with rfl | ⟨d, isBreak, rfl⟩
    · obtain rfl : '\n' = c := by simpa using isLast
      contradiction
    · obtain rfl : d = c := by simpa using isLast
      rw [isBreak] at notBreak
      contradiction
  · intro front back _ _ begins
    exact .inr (List.prefix_nil.mp begins)

/-- What is replaced everywhere in each line of a text is replaced everywhere in the text. -/
theorem LinesReplaced.replaced
    (linesReplaced : LinesReplaced true needle replacement (lines text) result count)
    (noBreak : HasNoBreak needle) :
    Replaced true needle replacement text result count := by
  generalize shape : lines text = block at linesReplaced
  induction linesReplaced generalizing text with
  | nil =>
      exact absurd shape (lines_ne_nil text)
  | @cons line result _ later _ _ first others inductionHypothesis =>
      have whole := flatten_lines text
      rw [shape, List.flatten_cons] at whole
      rw [← whole]
      cases later with
      | nil =>
          cases others
          simpa using first
      | cons next more =>
          have isFirst : lines text = [line] ++ next :: more := shape
          have cut := cutBetween isFirst (List.cons_ne_nil next more)
          exact first.append (inductionHypothesis cut.lines_eq) (noneAcross_of_line shape noBreak)

/-- A line keeps its start and its own text with anything behind it, if it is not the last. -/
theorem exists_line_before
    (shape : lines text = earlier ++ line :: later)
    {region : List Char}
    (atEnd : later = [] → region = []) :
    ∃ longer more,
      lines (earlier.flatten ++ (line ++ region)) = earlier ++ longer :: more ∧
        withoutReturn longer = withoutReturn line := by
  have cut := cutBetween shape (List.cons_ne_nil line later)
  have apart : joinsBreak earlier.flatten (line ++ region) = false := by
    have uncut := cut.apart
    cases line with
    | nil =>
        rw [atEnd (later_eq_nil cut.lines_eq)]
        exact joinsBreak_nil _
    | cons c rest =>
        simpa [joinsBreak] using uncut
  -- The own texts of ended lines are those of the text that they begin.
  have begins : ∃ longer more,
      lines (line ++ region) = longer :: more ∧ withoutReturn longer = withoutReturn line := by
    cases later with
    | nil =>
        have isLast := cut.lines_eq
        rw [List.flatten_singleton] at isLast
        rw [atEnd rfl, List.append_nil]
        exact ⟨line, [], isLast, rfl⟩
    | cons next others =>
        have isFirst : lines (line :: next :: others).flatten = [line] ++ next :: others :=
          cut.lines_eq
        have ended := (cutBetween isFirst (List.cons_ne_nil next others)).ended
        have own := ownLines_dropLast_isPrefix line region
        rw [List.flatten_singleton] at ended
        rw [ownLines, ← List.map_dropLast, show (lines line).dropLast = [line] from ended] at own
        obtain ⟨others, whole⟩ := own
        obtain ⟨longer, more, isLines, same, _⟩ := List.map_eq_cons_iff.mp whole.symm
        exact ⟨longer, more, isLines, same⟩
  obtain ⟨longer, more, isLines, same⟩ := begins
  exact ⟨longer, more, lines_of_parts cut.ended cut.isOpen apart isLines, same⟩

end ChordEditor.Text
