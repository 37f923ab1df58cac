import ChordEditor.Proofs.Text.Blocks

namespace ChordEditor.Text

/-!
# Lines changed one after the other

A change of a line that leaves the break at its end changes this line of a text and no
other one, but for one case: below a line that ends with CR, nothing is left of a line but
its LF.  CR and LF then are one break, and there is one line less (`EmptiedBetween`).

The lines of a block are changed from the first one to the last one, and each is found by
its number when its turn comes.  So either no line is lost, and exactly the lines of the
block are changed, or there are fewer lines than before (`changeEach_cases`).
-/

/-- A change of lines that leaves the break at the end of each. -/
def KeepsEnds (change : List Char → List Char) : Prop :=
  ∀ body ending,
    HasNoBreak body →
      IsBreak ending ∨ ending = [] →
        ∃ other, HasNoBreak other ∧ change (body ++ ending) = other ++ ending

/-- Below a line that ends with CR, a change leaves nothing of a line but its LF. -/
def EmptiedBetween
    (change : List Char → List Char)
    (text : List Char)
    (number : Nat) : Prop :=
  ∃ above line,
    0 < number ∧
      (lines text)[number - 1]? = some above ∧
        (lines text)[number]? = some line ∧
          above.getLast? = some '\r' ∧ line ≠ ['\n'] ∧ change line = ['\n']

/-- What becomes of a line with some number when the lines of a block are changed. -/
def changedIn
    (change : List Char → List Char)
    (first count number : Nat)
    (line : List Char) : List Char :=
  if first ≤ number ∧ number < first + count then change line else line

/-- The lines of a block are changed, and no other ones. -/
def LinesChanged
    (change : List Char → List Char)
    (first count : Nat)
    (text after : List Char) : Prop :=
  ∀ number,
    (lines after)[number]? = (lines text)[number]?.map (changedIn change first count number)

/-- Change lines of a text one after the other, each as it is when its turn comes. -/
def changeEach
    (change : List Char → List Char)
    (text : List Char)
    (numbers : List Nat) : List Char :=
  numbers.foldl (fun text number => ((lines text).modify number change).flatten) text

variable
  {change : List Char → List Char}
  {text line : List Char}
  {earlier later : List (List Char)}

/-- A line of a text has no break before its end. -/
theorem exists_body_of_mem (isLine : line ∈ lines text) :
    ∃ body ending,
      line = body ++ ending ∧ HasNoBreak body ∧ (IsBreak ending ∨ ending = []) := by
  obtain ⟨earlier, later, shape⟩ := List.append_of_mem isLine
  obtain ⟨body, ending, whole, noBreak, isEnding⟩ := exists_body shape
  exact ⟨body, ending, whole, noBreak, isEnding.imp_right And.left⟩

/-- In front of a text without breaks its first line goes on. -/
theorem lines_append_of_hasNoBreak
    {body rest first : List Char}
    {more : List (List Char)}
    (noBreak : HasNoBreak body)
    (shape : lines rest = first :: more) :
    lines (body ++ rest) = (body ++ first) :: more := by
  induction body with
  | nil =>
      exact shape
  | cons c body inductionHypothesis =>
      obtain ⟨notBreak, others⟩ := (hasNoBreak_cons c body).mp noBreak
      rw [List.cons_append, lines_cons, inductionHypothesis others, endsLine, notBreak]
      rfl

theorem getLast?_append_of_ne_nil
    (front : List Char)
    {ending : List Char}
    (someEnding : ending ≠ []) :
    (front ++ ending).getLast? = ending.getLast? := by
  rw [List.getLast?_append, List.getLast?_eq_some_getLast someEnding]
  rfl

theorem IsBreak.ne_nil
    {ending : List Char}
    (isBreak : IsBreak ending) :
    ending ≠ [] := by
  rcases isBreak with rfl | ⟨c, _, rfl⟩ <;> exact List.cons_ne_nil _ _

/-- A line that another one follows is not empty, and what comes before ends as it does. -/
theorem getLast?_flatten_ended
    {above : List Char}
    (shape : lines text = (earlier ++ [above]) ++ line :: later) :
    (earlier ++ [above]).flatten.getLast? = above.getLast? := by
  have isEnded : lines text = earlier ++ above :: (line :: later) := by
    rw [shape, List.append_assoc]
    rfl
  obtain ⟨body, ending, rfl, _, isBreak | ⟨_, isLast⟩⟩ := exists_body isEnded
  · rw [List.flatten_append, List.flatten_singleton, ← List.append_assoc,
      getLast?_append_of_ne_nil _ isBreak.ne_nil, getLast?_append_of_ne_nil _ isBreak.ne_nil]
  · contradiction

/-- Whether a line is lost is seen from what comes before it and from the line. -/
theorem emptiedBetween_iff (shape : lines text = earlier ++ line :: later) :
    EmptiedBetween change text earlier.length ↔
      earlier.flatten.getLast? = some '\r' ∧ line ≠ ['\n'] ∧ change line = ['\n'] := by
  have isLine : (lines text)[earlier.length]? = some line := by
    simp [shape]
  rcases List.eq_nil_or_concat earlier with rfl | ⟨init, above, rfl⟩
  · constructor
    · rintro ⟨_, _, notFirst, _⟩
      exact absurd notFirst (Nat.lt_irrefl 0)
    · rintro ⟨someBefore, _⟩
      contradiction
  · rw [List.concat_eq_append] at shape isLine ⊢
    have isAbove : (lines text)[(init ++ [above]).length - 1]? = some above := by
      simp [shape]
    have sameEnd := getLast?_flatten_ended shape
    constructor
    · rintro ⟨above', line', _, isAbove', isLine', ends, someText, emptied⟩
      obtain rfl : above = above' := Option.some.inj (isAbove.symm.trans isAbove')
      obtain rfl : line = line' := Option.some.inj (isLine.symm.trans isLine')
      exact ⟨sameEnd.trans ends, someText, emptied⟩
    · rintro ⟨ends, someText, emptied⟩
      refine ⟨above, line, ?_, isAbove, isLine, sameEnd.symm.trans ends, someText, emptied⟩
      rw [List.length_append]
      exact Nat.succ_pos _

/-- A line begins with a LF only if there is nothing else of it. -/
theorem head?_eq_newline_iff
    {body ending rest : List Char}
    (noBreak : HasNoBreak body)
    (isEnding : IsBreak ending ∨ ending = [] ∧ rest = []) :
    (body ++ (ending ++ rest)).head? = some '\n' ↔ body ++ ending = ['\n'] := by
  cases body with
  | nil =>
      rcases isEnding with (rfl | ⟨c, _, rfl⟩) | ⟨rfl, rfl⟩ <;> simp
  | cons c body =>
      have notBreak := ((hasNoBreak_cons c body).mp noBreak).1
      constructor
      · intro isNewline
        obtain rfl : c = '\n' := Option.some.inj isNewline
        contradiction
      · intro isNewline
        obtain rfl : c = '\n' := (List.cons.inj isNewline).1
        contradiction

/-- What is left of the first line without its body is the first line of what is left. -/
theorem lines_behind_body
    {body ending rest : List Char}
    (noBreak : HasNoBreak body)
    (shape : lines (body ++ rest) = (body ++ ending) :: later) :
    lines rest = ending :: later := by
  obtain ⟨first, more, restShape⟩ := List.exists_cons_of_ne_nil (lines_ne_nil rest)
  have together := lines_append_of_hasNoBreak noBreak restShape
  rw [shape] at together
  obtain ⟨sameFirst, sameMore⟩ := List.cons.inj together
  rw [restShape, List.append_cancel_left sameFirst, sameMore]

/-- There is one break less if a CR and a LF that were apart come to stand together. -/
theorem breakCount_lt_of_joinsBreak
    {front behind changed : List Char}
    (apart : joinsBreak front behind = false)
    (joined : joinsBreak front changed = true)
    (sameLines : (lines changed).length = (lines behind).length) :
    breakCount (front ++ changed) < breakCount (front ++ behind) := by
  have before := breakCount_append front behind
  have after := breakCount_append front changed
  rw [length_lines, length_lines] at sameLines
  rw [lostBreaks, apart, if_neg Bool.false_ne_true] at before
  rw [lostBreaks, joined, if_pos rfl] at after
  omega

/-- What is known of a text in which one line was changed. -/
theorem lines_modify_cases
    (keepsEnds : KeepsEnds change)
    (text : List Char)
    (number : Nat) :
    (¬ EmptiedBetween change text number ∧
        lines ((lines text).modify number change).flatten =
          (lines text).modify number change) ∨
      EmptiedBetween change text number ∧
        breakCount ((lines text).modify number change).flatten < breakCount text := by
  by_cases isLine : number < (lines text).length
  · obtain ⟨earlier, line, later, shape, rfl, modified⟩ := exists_shape_of_lt isLine
    obtain ⟨body, ending, rfl, noBreak, isEnding⟩ := exists_body shape
    obtain ⟨other, otherNoBreak, changed⟩ :=
      keepsEnds body ending noBreak (isEnding.imp_right And.left)
    have atEnd : IsBreak ending ∨ ending = [] ∧ later.flatten = [] :=
      isEnding.imp_right (And.imp_right fun isLast => by rw [isLast]; rfl)
    have cut := cutBetween shape (List.cons_ne_nil _ later)
    have apart := cut.apart
    have behind := cut.lines_eq
    rw [List.flatten_cons, List.append_assoc] at apart behind
    have changedBehind :=
      lines_append_of_hasNoBreak otherNoBreak (lines_behind_body noBreak behind)
    -- The CR and the LF are joined exactly if nothing of the line is left before its LF.
    have joins :
        joinsBreak earlier.flatten (other ++ (ending ++ later.flatten)) = true ↔
          EmptiedBetween change text earlier.length := by
      have wasApart :
          earlier.flatten.getLast? = some '\r' → body ++ ending ≠ ['\n'] := by
        intro ends isNewline
        rw [joinsBreak, ends, (head?_eq_newline_iff noBreak atEnd).mpr isNewline] at apart
        contradiction
      rw [emptiedBetween_iff shape, changed, ← head?_eq_newline_iff otherNoBreak atEnd]
      simp only [joinsBreak, Bool.and_eq_true, beq_iff_eq]
      exact ⟨fun both => ⟨both.1, wasApart both.1, both.2⟩, fun all => ⟨all.1, all.2.2⟩⟩
    rw [← joins, modified, changed, List.flatten_append, List.flatten_cons, List.append_assoc]
    cases joined : joinsBreak earlier.flatten (other ++ (ending ++ later.flatten)) with
    | false =>
        exact .inl ⟨Bool.false_ne_true, lines_of_parts cut.ended cut.isOpen joined changedBehind⟩
    | true =>
        have whole : text = earlier.flatten ++ (body ++ (ending ++ later.flatten)) := by
          rw [← flatten_lines text, shape, List.flatten_append, List.flatten_cons,
            List.append_assoc]
        refine .inr ⟨rfl, ?_⟩
        rw [whole]
        apply breakCount_lt_of_joinsBreak apart joined
        rw [behind, changedBehind, List.length_cons, List.length_cons]
  · have noLine : (lines text)[number]? = none := List.getElem?_eq_none (Nat.le_of_not_lt isLine)
    rw [List.modify_eq_self (Nat.le_of_not_lt isLine), flatten_lines]
    refine .inl ⟨?_, rfl⟩
    rintro ⟨_, _, _, _, isLine, _⟩
    rw [noLine] at isLine
    contradiction

/-- A line that another one follows ends as before when it is changed. -/
theorem KeepsEnds.getLast?_eq
    (keepsEnds : KeepsEnds change)
    {number : Nat}
    {above : List Char}
    (isAbove : (lines text)[number]? = some above)
    (isLine : (lines text)[number + 1]? = some line) :
    (change above).getLast? = above.getLast? := by
  obtain ⟨inText, _⟩ := List.getElem?_eq_some_iff.mp isAbove
  obtain ⟨earlier, line', later, shape, rfl, _⟩ := exists_shape_of_lt inText
  obtain rfl : line' = above := by
    rw [shape] at isAbove
    simpa using isAbove
  obtain ⟨body, ending, rfl, noBreak, isBreak | ⟨_, rfl⟩⟩ := exists_body shape
  · obtain ⟨other, _, changed⟩ := keepsEnds body ending noBreak (.inl isBreak)
    rw [changed, getLast?_append_of_ne_nil _ isBreak.ne_nil,
      getLast?_append_of_ne_nil _ isBreak.ne_nil]
  · rw [shape] at isLine
    simp at isLine

section Changed

variable
  {first count : Nat}
  {after : List Char}

/-- Outside of the block lines stay. -/
theorem changedIn_of_outside
    {number : Nat}
    (outside : ¬ (first ≤ number ∧ number < first + count)) :
    changedIn change first count number = id := by
  funext line
  exact if_neg outside

/-- A line stays if it is outside of the block, or if the change leaves it as it is. -/
theorem LinesChanged.getElem?_eq
    (linesChanged : LinesChanged change first count text after)
    {number : Nat}
    (stays :
      first ≤ number →
        number < first + count → ∀ line ∈ (lines text)[number]?, change line = line) :
    (lines after)[number]? = (lines text)[number]? := by
  rw [linesChanged]
  by_cases inBlock : first ≤ number ∧ number < first + count
  · have changed : changedIn change first count number = change := by
      funext line
      exact if_pos inBlock
    rw [changed]
    cases isLine : (lines text)[number]? with
    | none =>
        rfl
    | some line =>
        exact congrArg some (stays inBlock.1 inBlock.2 line isLine)
  · rw [changedIn_of_outside inBlock, Option.map_id_apply]

/-- As many lines are changed as there were. -/
theorem LinesChanged.breakCount_eq
    (linesChanged : LinesChanged change first count text after) :
    breakCount after = breakCount text := by
  have each (number : Nat) : (lines after).length ≤ number ↔ (lines text).length ≤ number := by
    have same := linesChanged number
    rw [← List.getElem?_eq_none_iff, ← List.getElem?_eq_none_iff, same, Option.map_eq_none_iff]
  have countAfter := length_lines after
  have countText := length_lines text
  have notMore := (each (lines text).length).mpr (Nat.le_refl _)
  have notLess := (each (lines after).length).mp (Nat.le_refl _)
  omega

/-- Which lines are lost next is seen from the lines as they were before. -/
theorem LinesChanged.emptiedBetween_iff
    (linesChanged : LinesChanged change first count text after)
    (keepsEnds : KeepsEnds change)
    (next : List Char → List Char)
    (number : Nat) :
    EmptiedBetween next after number ↔
      ∃ above line,
        0 < number ∧
          (lines text)[number - 1]? = some above ∧
            (lines text)[number]? = some line ∧
              above.getLast? = some '\r' ∧
                changedIn change first count number line ≠ ['\n'] ∧
                  next (changedIn change first count number line) = ['\n'] := by
  have sameEnd
      {above line : List Char}
      (notFirst : 0 < number)
      (isAbove : (lines text)[number - 1]? = some above)
      (isLine : (lines text)[number]? = some line) :
      (changedIn change first count (number - 1) above).getLast? = above.getLast? := by
    rw [← Nat.sub_add_cancel notFirst] at isLine
    unfold changedIn
    split
    · exact keepsEnds.getLast?_eq isAbove isLine
    · rfl
  constructor
  · rintro ⟨above', line', notFirst, isAbove', isLine', ends, emptied⟩
    rw [linesChanged] at isAbove' isLine'
    obtain ⟨above, isAbove, rfl⟩ := Option.map_eq_some_iff.mp isAbove'
    obtain ⟨line, isLine, rfl⟩ := Option.map_eq_some_iff.mp isLine'
    rw [sameEnd notFirst isAbove isLine] at ends
    exact ⟨above, line, notFirst, isAbove, isLine, ends, emptied⟩
  · rintro ⟨above, line, notFirst, isAbove, isLine, ends, emptied⟩
    refine
      ⟨changedIn change first count (number - 1) above,
        changedIn change first count number line, notFirst, ?_, ?_, ?_, emptied⟩
    · rw [linesChanged, isAbove, Option.map_some]
    · rw [linesChanged, isLine, Option.map_some]
    · rw [sameEnd notFirst isAbove isLine]
      exact ends

/-- Behind the block the same lines are lost next as before. -/
theorem LinesChanged.emptiedBetween_behind
    (linesChanged : LinesChanged change first count text after)
    (keepsEnds : KeepsEnds change)
    (next : List Char → List Char)
    {number : Nat}
    (isBehind : first + count ≤ number) :
    EmptiedBetween next after number ↔ EmptiedBetween next text number := by
  rw [linesChanged.emptiedBetween_iff keepsEnds, changedIn_of_outside (by omega)]
  rfl

/-- Changing one line changes a block of one line, if none is lost. -/
theorem linesChanged_modify
    (unjoined :
      lines ((lines text).modify first change).flatten = (lines text).modify first change) :
    LinesChanged change first 1 text ((lines text).modify first change).flatten := by
  have inBlock (number : Nat) : (first ≤ number ∧ number < first + 1) ↔ first = number := by
    omega
  intro number
  unfold changedIn
  simp only [unjoined, List.getElem?_modify, inBlock]
  rfl

/-- A block and one line before it that are changed are a longer block. -/
theorem LinesChanged.cons
    {between : List Char}
    (one : LinesChanged change first 1 text between)
    (others : LinesChanged change (first + 1) count between after) :
    LinesChanged change first (count + 1) text after := by
  intro number
  rw [others, one, Option.map_map]
  congr 1
  funext line
  unfold changedIn
  rw [Function.comp_apply]
  by_cases isFirst : first = number
  · rw [if_neg (by omega), if_pos (by omega), if_pos (by omega)]
  · by_cases isOther : first + 1 ≤ number ∧ number < first + 1 + count
    · rw [if_pos isOther, if_neg (by omega), if_pos (by omega)]
    · rw [if_neg isOther, if_neg (by omega), if_neg (by omega)]

/-- Lines of a block that are changed twice. -/
theorem LinesChanged.comp
    {next : List Char → List Char}
    {between : List Char}
    (linesChanged : LinesChanged change first count text between)
    (again : LinesChanged next first count between after) :
    LinesChanged (next ∘ change) first count text after := by
  intro number
  rw [again, linesChanged, Option.map_map]
  congr 1
  funext line
  unfold changedIn
  rw [Function.comp_apply]
  split <;> rfl

end Changed

/--
Changing the lines of a block one after the other changes each of them and no other one,
unless a line is lost on the way, and then there are fewer lines than before.
-/
theorem changeEach_cases
    (keepsEnds : KeepsEnds change)
    (text : List Char)
    (first count : Nat) :
    (∀ number,
        first ≤ number → number < first + count → ¬ EmptiedBetween change text number) ∧
        LinesChanged change first count text
          (changeEach change text (List.range' first count)) ∨
      (∃ number,
          first ≤ number ∧ number < first + count ∧ EmptiedBetween change text number) ∧
        breakCount (changeEach change text (List.range' first count)) < breakCount text := by
  induction count generalizing first text with
  | zero =>
      refine .inl ⟨by omega, ?_⟩
      intro number
      rw [changedIn_of_outside (by omega), Option.map_id_apply]
      rfl
  | succ count inductionHypothesis =>
      have rest :
          changeEach change text (List.range' first (count + 1)) =
            changeEach change ((lines text).modify first change).flatten
              (List.range' (first + 1) count) :=
        rfl
      rw [rest]
      have further :=
        inductionHypothesis ((lines text).modify first change).flatten (first + 1)
      rcases lines_modify_cases keepsEnds text first with ⟨unjoined, isModified⟩ | ⟨joined, fewer⟩
      · have one := linesChanged_modify isModified
        have sameLost {number : Nat} (isBehind : first + 1 ≤ number) :=
          one.emptiedBetween_behind keepsEnds change isBehind
        rcases further with ⟨noneLost, others⟩ | ⟨⟨number, starts, stops, lost⟩, fewer⟩
        · refine .inl ⟨?_, one.cons others⟩
          intro number starts stops
          rcases Nat.eq_or_lt_of_le starts with rfl | isBehind
          · exact unjoined
          · rw [← sameLost isBehind]
            exact noneLost number isBehind (by omega)
        · refine .inr ⟨⟨number, by omega, by omega, (sameLost starts).mp lost⟩, ?_⟩
          rw [← one.breakCount_eq]
          exact fewer
      · refine .inr ⟨⟨first, Nat.le_refl first, by omega, joined⟩, ?_⟩
        rcases further with ⟨_, others⟩ | ⟨_, evenFewer⟩
        · rw [others.breakCount_eq]
          exact fewer
        · exact Nat.lt_trans evenFewer fewer

section Twice

variable
  {next : List Char → List Char}
  {first count : Nat}

/-- The lines that both changes lose are those that the second one loses after the first one. -/
theorem emptiedBetween_comp_iff
    {once : List Char}
    {number : Nat}
    (linesChanged : LinesChanged change first count text once)
    (keepsEnds : KeepsEnds change)
    (keepsNewline : change ['\n'] = ['\n'])
    (inBlock : first ≤ number ∧ number < first + count)
    (notLost : ¬ EmptiedBetween change text number) :
    EmptiedBetween (next ∘ change) text number ↔ EmptiedBetween next once number := by
  have changed : changedIn change first count number = change := by
    funext line
    exact if_pos inBlock
  rw [linesChanged.emptiedBetween_iff keepsEnds, changed]
  constructor
  · rintro ⟨above, line, notFirst, isAbove, isLine, ends, someText, emptied⟩
    refine ⟨above, line, notFirst, isAbove, isLine, ends, ?_, emptied⟩
    intro isNewline
    exact notLost ⟨above, line, notFirst, isAbove, isLine, ends, someText, isNewline⟩
  · rintro ⟨above, line, notFirst, isAbove, isLine, ends, someText, emptied⟩
    refine ⟨above, line, notFirst, isAbove, isLine, ends, ?_, emptied⟩
    rintro rfl
    exact someText keepsNewline

/--
Changing a block of lines in two ways, one after the other, keeps the number of lines
exactly if the two changes together lose no line of the block.  Then each change is made
on the lines of the block, and on no other ones.
-/
theorem changeEach_twice
    (keepsEnds : KeepsEnds change)
    (keepsNewline : change ['\n'] = ['\n'])
    (nextKeepsEnds : KeepsEnds next)
    (nextKeepsNewline : next ['\n'] = ['\n'])
    (text : List Char)
    (first count : Nat) :
    let once := changeEach change text (List.range' first count)
    let twice := changeEach next once (List.range' first count)
    let noneLost :=
      ∀ number,
        first ≤ number → number < first + count → ¬ EmptiedBetween (next ∘ change) text number
    (breakCount twice = breakCount text ↔ noneLost) ∧
      (noneLost →
        LinesChanged change first count text once ∧
          LinesChanged (next ∘ change) first count text twice) := by
  intro once twice noneLost
  have secondRun := changeEach_cases nextKeepsEnds once first count
  rcases changeEach_cases keepsEnds text first count with
    ⟨unlost, isOnce⟩ | ⟨⟨number, starts, stops, lost⟩, fewer⟩
  · have sameLost (number : Nat) (starts : first ≤ number) (stops : number < first + count) :=
      @emptiedBetween_comp_iff change text next first count once number isOnce keepsEnds
        keepsNewline ⟨starts, stops⟩ (unlost number starts stops)
    rcases secondRun with ⟨unlostAgain, isTwice⟩ | ⟨⟨number, starts, stops, lost⟩, fewer⟩
    · have holds : noneLost := by
        intro number starts stops
        rw [sameLost number starts stops]
        exact unlostAgain number starts stops
      have sameCount : breakCount twice = breakCount text :=
        isTwice.breakCount_eq.trans isOnce.breakCount_eq
      exact ⟨iff_of_true sameCount holds, fun _ => ⟨isOnce, isOnce.comp isTwice⟩⟩
    · have fails : ¬ noneLost := fun holds =>
        holds number starts stops ((sameLost number starts stops).mpr lost)
      have lessCount : breakCount twice ≠ breakCount text := by
        rw [← isOnce.breakCount_eq]
        exact Nat.ne_of_lt fewer
      exact ⟨iff_of_false lessCount fails, fun holds => absurd holds fails⟩
  · have fails : ¬ noneLost := by
      intro holds
      obtain ⟨above, line, notFirst, isAbove, isLine, ends, someText, emptied⟩ := lost
      refine holds number starts stops ⟨above, line, notFirst, isAbove, isLine, ends, someText, ?_⟩
      rw [Function.comp_apply, emptied, nextKeepsNewline]
    have notMore : breakCount twice ≤ breakCount once := by
      rcases secondRun with ⟨_, isTwice⟩ | ⟨_, evenFewer⟩
      · exact Nat.le_of_eq isTwice.breakCount_eq
      · exact Nat.le_of_lt evenFewer
    exact
      ⟨iff_of_false (Nat.ne_of_lt (Nat.lt_of_le_of_lt notMore fewer)) fails,
        fun holds => absurd holds fails⟩

end Twice

end ChordEditor.Text
