import ChordEditor.Highlight.Cache
import ChordEditor.Proofs.Buffer.Coverage

namespace ChordEditor.HighlightCache

/-!
# Updating the highlight cache

An update of a cache that was right for the old lines makes it right for the new ones,
if the range of lines gone through covers the change (`update_states`).  Aligning puts
every state behind the range beside its line again (`realign_drop`), and going through
the lines may stop as soon as a line behind the range ends as it did before, because
all that follows it has not changed (`settle_states`).

Whatever the range, an update makes a cache right exactly if the states that it keeps
are right (`update_right_iff`).
-/

variable {grammar : Grammar}

/-- A line on which no construct opens carries none into the next one. -/
theorem carryAfter_of_outside
    {text : List Char}
    (opensNone : Highlight.constructStep grammar text = .outside) :
    Highlight.carryAfter grammar text none = none := by
  simp [Highlight.carryAfter, Highlight.scanConstructs, Highlight.scanConstructs?,
    Grammar.scanOn?, opensNone]

/-- A line whose first construct does not close carries that one into the next line. -/
theorem carryAfter_of_unclosed
    {text : List Char}
    {start number : Nat}
    {tokenClass : TokenClass}
    (staysOpen : Highlight.constructStep grammar text = .unclosed start number tokenClass) :
    Highlight.carryAfter grammar text none = some number := by
  simp [Highlight.carryAfter, Highlight.scanConstructs, Highlight.scanConstructs?,
    Grammar.scanOn?, staysOpen]

/-- There is a state for every line. -/
@[simp]
theorem length_statesOf
    (incoming : CarryState)
    (texts : List (List Char)) :
    (statesOf grammar incoming texts).length = texts.length := by
  induction texts generalizing incoming with
  | nil =>
      rfl
  | cons text texts inductionHypothesis =>
      simp [statesOf, inductionHypothesis]

/-- The construct open behind some lines. -/
def carryThrough (grammar : Grammar) (incoming : CarryState) (texts : List (List Char)) :
    CarryState :=
  texts.foldl (fun carry text => Highlight.carryAfter grammar text carry) incoming

/-- The states of lines follow from those of the lines before. -/
theorem statesOf_append
    (incoming : CarryState)
    (first second : List (List Char)) :
    statesOf grammar incoming (first ++ second) =
      statesOf grammar incoming first ++
        statesOf grammar (carryThrough grammar incoming first) second := by
  induction first generalizing incoming with
  | nil =>
      rfl
  | cons text texts inductionHypothesis =>
      simp only [List.cons_append, statesOf, inductionHypothesis]
      rfl

/-- The states of the first lines depend on these alone. -/
theorem statesOf_take
    (incoming : CarryState)
    (texts : List (List Char))
    (count : Nat) :
    statesOf grammar incoming (texts.take count) =
      (statesOf grammar incoming texts).take count := by
  induction texts generalizing incoming count with
  | nil =>
      simp [statesOf]
  | cons text texts inductionHypothesis =>
      cases count with
      | zero =>
          rfl
      | succ count =>
          simp [statesOf, inductionHypothesis]

/-- The states of the last lines follow from the construct open before them. -/
theorem statesOf_drop
    (incoming : CarryState)
    (texts : List (List Char))
    (count : Nat) :
    (statesOf grammar incoming texts).drop count =
      statesOf grammar (carryThrough grammar incoming (texts.take count))
        (texts.drop count) := by
  induction texts generalizing incoming count with
  | nil =>
      simp [statesOf]
  | cons text texts inductionHypothesis =>
      cases count with
      | zero =>
          rfl
      | succ count =>
          simp only [statesOf, List.drop_succ_cons, List.take_succ_cons,
            inductionHypothesis]
          rfl

/-- The construct open at the end of lines is the last of their states. -/
theorem carryThrough_eq
    (incoming : CarryState)
    (texts : List (List Char)) :
    (incoming :: statesOf grammar incoming texts)[texts.length]? =
      some (carryThrough grammar incoming texts) := by
  induction texts generalizing incoming with
  | nil =>
      rfl
  | cons text texts inductionHypothesis =>
      rw [List.length_cons, List.getElem?_cons_succ]
      exact inductionHypothesis _

/-- The construct open before a line depends on the states before it alone. -/
theorem stateBefore_of_take
    {cache : HighlightCache}
    {texts : List (List Char)}
    (statesBefore : cache.states.take texts.length = statesOf grammar none texts) :
    cache.stateBefore texts.length = carryThrough grammar none texts := by
  have last :
      (none :: statesOf grammar none texts)[texts.length]? =
        some (carryThrough grammar none texts) :=
    carryThrough_eq none texts
  unfold stateBefore stateAfter
  cases count : texts.length with
  | zero =>
      rw [count] at last
      simpa using last
  | succ before =>
      rw [← statesBefore, count, List.getElem?_cons_succ,
        List.getElem?_take_of_lt (Nat.lt_succ_self before)] at last
      simp [last]

/-- With the states before a line right, so is the construct open at its start. -/
theorem stateBefore_eq
    {cache : HighlightCache}
    {texts : List (List Char)}
    {line : Nat}
    (inside : line ≤ texts.length)
    (statesBefore : cache.states.take line = (statesOf grammar none texts).take line) :
    cache.stateBefore line = carryThrough grammar none (texts.take line) := by
  have reached : (texts.take line).length = line :=
    List.length_take_of_le inside
  rw [← statesOf_take] at statesBefore
  have found :
      cache.stateBefore (texts.take line).length =
        carryThrough grammar none (texts.take line) :=
    stateBefore_of_take (by rw [reached]; exact statesBefore)
  rwa [reached] at found

variable {states : List CarryState} {first last count : Nat}

/-- Aligned states before the first touched line are the old ones. -/
theorem realign_take
    (inOld : first ≤ states.length)
    (inNew : first ≤ count) :
    (realign states first count).take first = states.take first := by
  unfold realign
  dsimp only
  split
  · rw [List.take_append_of_le_length (by simp; omega), List.take_take,
      Nat.min_eq_left inNew, List.append_assoc,
      List.take_append_of_le_length (by simp; omega), List.take_take, Nat.min_self]
  · rw [List.take_append_of_le_length (by simp; omega), List.take_take,
      Nat.min_eq_left inNew,
      List.take_append_of_le_length (by simp; omega), List.take_take, Nat.min_self]

/-- There are as many aligned states as lines. -/
theorem length_realign : (realign states first count).length = count := by
  unfold realign
  simp only [List.length_append, List.length_take, List.length_replicate]
  omega

/-- Aligned states from the last touched line on are those of the lines they belonged to. -/
theorem realign_drop
    (ordered : first ≤ last)
    (inside : last < count)
    (room : first + count ≤ states.length + last) :
    (realign states first count).drop last =
      states.drop (last + states.length - count) := by
  unfold realign
  dsimp only
  split
  · rename_i grows
    have whole :
        (states.take first ++ List.replicate (count - states.length) none ++
          states.drop first).length = count := by
      simp only [List.length_append, List.length_take, List.length_replicate,
        List.length_drop]
      omega
    rw [List.take_of_length_le (Nat.le_of_eq whole), whole, Nat.sub_self,
      List.replicate_zero, List.append_nil, List.drop_append,
      List.drop_eq_nil_of_le (by simp; omega), List.nil_append, List.drop_drop]
    congr 1
    simp
    omega
  · rename_i shrinks
    have removed :
        min (states.length - count) (states.length - first) = states.length - count := by
      omega
    have whole :
        (states.take first ++ states.drop (first + (states.length - count))).length =
          count := by
      simp only [List.length_append, List.length_take, List.length_drop]
      omega
    rw [removed, List.take_of_length_le (Nat.le_of_eq whole), whole, Nat.sub_self,
      List.replicate_zero, List.append_nil, List.drop_append,
      List.drop_eq_nil_of_le (by simp; omega), List.nil_append, List.drop_drop]
    congr 1
    simp
    omega

/-- Going through lines settles the states of all of them. -/
theorem settle_states
    {line : Nat}
    {incoming : CarryState}
    {texts : List (List Char)}
    (sameLength : states.length = texts.length)
    (unchangedBehind :
      ∃ carry,
        states.drop (last - line) =
          carry :: statesOf grammar carry (texts.drop (last - line + 1))) :
    (settle grammar last line incoming texts states).2 =
      statesOf grammar incoming texts := by
  -- The induction is on the lines still to go through.  What carries it is that the states
  -- from `last` on still belong together: each follows from the one before it.
  induction texts generalizing line incoming states with
  | nil =>
      obtain ⟨carry, shape⟩ := unchangedBehind
      rw [List.eq_nil_of_length_eq_zero sameLength] at shape
      simp at shape
  | cons text texts inductionHypothesis =>
      cases states with
      | nil =>
          simp at sameLength
      | cons old olds =>
          obtain ⟨carry, shape⟩ := unchangedBehind
          have restLength : olds.length = texts.length := by
            simpa using sameLength
          unfold settle
          dsimp only
          split
          · rename_i stops
            rw [statesOf]
            rcases stops with ⟨isBehind, endsAsBefore⟩ | noMore
            -- The old states of all later lines follow from the state that was just found again.
            · have nothingSkipped : last - line = 0 := by
                omega
              rw [nothingSkipped] at shape
              simp only [List.drop_zero, Nat.zero_add, List.drop_succ_cons,
                List.cons.injEq] at shape
              rw [shape.2, ← shape.1, endsAsBefore]
            · subst noMore
              rw [List.eq_nil_of_length_eq_zero restLength]
              rfl
          · rename_i goesOn
            rw [statesOf]
            apply congrArg (List.cons (Highlight.carryAfter grammar text incoming))
            apply inductionHypothesis restLength
            by_cases isBehind : last ≤ line
            · have nothingSkipped : last - line = 0 := by
                omega
              have nothingSkippedNext : last - (line + 1) = 0 := by
                omega
              rw [nothingSkipped] at shape
              simp only [List.drop_zero, Nat.zero_add, List.drop_succ_cons,
                List.cons.injEq] at shape
              rw [nothingSkippedNext, shape.2]
              cases texts with
              | nil =>
                  exact absurd (.inr rfl) goesOn
              | cons next later =>
                  exact ⟨_, rfl⟩
            · have oneLess : last - line = last - (line + 1) + 1 := by
                omega
              rw [oneLess, List.drop_succ_cons, List.drop_succ_cons] at shape
              exact ⟨carry, shape⟩

/-- An update for lines that exist goes through them, from the first one on. -/
theorem update_of_inside
    {cache : HighlightCache}
    {buffer : Buffer}
    {dirty : LineRange}
    (notEmpty : cache.states ≠ [])
    (ordered : dirty.first ≤ dirty.last)
    (inside : dirty.last < buffer.lineCount) :
    cache.update grammar buffer dirty =
      let aligned := realign cache.states dirty.first buffer.lineCount
      let settled :=
        settle grammar dirty.last dirty.first
          ((HighlightCache.mk aligned).stateBefore dirty.first)
          (buffer.lineTexts.drop dirty.first) (aligned.drop dirty.first)
      (⟨dirty.first, settled.1⟩, ⟨aligned.take dirty.first ++ settled.2⟩) := by
  have someState : cache.isEmpty = false := by
    rwa [isEmpty, List.isEmpty_eq_false_iff]
  have firstKept : min dirty.first (buffer.lineCount - 1) = dirty.first := by
    omega
  have lastKept :
      max (min dirty.last (buffer.lineCount - 1)) dirty.first = dirty.last := by
    omega
  unfold update
  simp only [someState, Bool.false_eq_true, ↓reduceIte, firstKept, lastKept]

/-- Updating a cache that was right for the old lines makes it right for the new ones. -/
theorem update_states
    {cache : HighlightCache}
    {buffer : Buffer}
    {dirty : LineRange}
    {old : List (List Char)}
    (covers : dirty.Covers old buffer.lineTexts)
    (wasRight : cache.states = statesOf grammar none old) :
    (cache.update grammar buffer dirty).2.states =
      statesOf grammar none buffer.lineTexts := by
  have ordered := covers.ordered
  have inside := covers.inside
  have room := covers.room
  have oldCount : cache.states.length = old.length := by
    rw [wasRight, length_statesOf]
  have newCount : buffer.lineCount = buffer.lineTexts.length := by
    rw [Buffer.length_lineTexts]
    rfl
  have notEmpty : cache.states ≠ [] :=
    List.ne_nil_of_length_pos (by omega)
  have alignedBefore :
      (realign cache.states dirty.first buffer.lineCount).take dirty.first =
        (statesOf grammar none buffer.lineTexts).take dirty.first := by
    rw [realign_take (by omega) (by omega), wasRight, ← statesOf_take, ← statesOf_take,
      covers.same_before]
  have incoming :
      (HighlightCache.mk (realign cache.states dirty.first buffer.lineCount)).stateBefore
          dirty.first =
        carryThrough grammar none (buffer.lineTexts.take dirty.first) :=
    stateBefore_eq (by omega) alignedBefore
  have lastOld : dirty.last + old.length - buffer.lineCount < old.length := by
    omega
  have unchangedBehind :
      ∃ carry,
        ((realign cache.states dirty.first buffer.lineCount).drop dirty.first).drop
            (dirty.last - dirty.first) =
          carry ::
            statesOf grammar carry
              ((buffer.lineTexts.drop dirty.first).drop
                (dirty.last - dirty.first + 1)) := by
    -- The states kept behind the range are those of the old lines, and these lines are the
    -- new ones there.
    rw [List.drop_drop, List.drop_drop, Nat.add_sub_cancel' ordered, ← Nat.add_assoc,
      Nat.add_sub_cancel' ordered, realign_drop ordered (by omega) (by omega),
      oldCount, wasRight, statesOf_drop, List.drop_eq_getElem_cons lastOld, statesOf,
      covers.same_after, ← newCount]
    have nextOld :
        dirty.last + old.length - buffer.lineCount + 1 =
          dirty.last + 1 + old.length - buffer.lineCount := by
      omega
    rw [nextOld]
    exact ⟨_, rfl⟩
  rw [update_of_inside notEmpty ordered (by omega)]
  dsimp only
  rw [settle_states ?_ unchangedBehind, alignedBefore, incoming, ← statesOf_drop,
    List.take_append_drop]
  rw [List.length_drop, length_realign, List.length_drop, newCount]

/-- Going through lines settles the states of those that are gone through. -/
theorem settle_gone_through
    {line : Nat}
    {incoming : CarryState}
    {texts : List (List Char)}
    (sameLength : states.length = texts.length) :
    line ≤ (settle grammar last line incoming texts states).1 ∧
      (settle grammar last line incoming texts states).2.take
          ((settle grammar last line incoming texts states).1 + 1 - line) =
        (statesOf grammar incoming texts).take
          ((settle grammar last line incoming texts states).1 + 1 - line) := by
  induction texts generalizing line incoming states with
  | nil =>
      cases List.eq_nil_of_length_eq_zero sameLength
      exact ⟨Nat.le_refl line, rfl⟩
  | cons text texts inductionHypothesis =>
      cases states with
      | nil =>
          simp at sameLength
      | cons old olds =>
          have restLength : olds.length = texts.length := by
            simpa using sameLength
          unfold settle
          dsimp only
          split
          · refine ⟨Nat.le_refl line, ?_⟩
            dsimp only
            rw [Nat.add_sub_cancel_left]
            rfl
          · have rest :=
              @inductionHypothesis olds (line + 1)
                (Highlight.carryAfter grammar text incoming) restLength
            generalize
              settle grammar last (line + 1) (Highlight.carryAfter grammar text incoming)
                texts olds = settled at rest ⊢
            obtain ⟨behind, gone⟩ := rest
            dsimp only
            have oneMore : settled.1 + 1 - line = settled.1 + 1 - (line + 1) + 1 := by
              omega
            refine ⟨Nat.le_of_succ_le behind, ?_⟩
            rw [oneMore, statesOf, List.take_succ_cons, List.take_succ_cons, gone]

/-- Outside of a range of lines the states are those of the texts. -/
structure RightOutside
    (gone : LineRange)
    (grammar : Grammar)
    (texts : List (List Char))
    (cache : HighlightCache) : Prop where
  before :
    cache.states.take gone.first = (statesOf grammar none texts).take gone.first
  behind :
    cache.states.drop (gone.last + 1) = (statesOf grammar none texts).drop (gone.last + 1)

/-- States that are right are so outside of any range. -/
theorem RightOutside.of_right
    {cache : HighlightCache}
    {texts : List (List Char)}
    (right : cache.states = statesOf grammar none texts)
    (gone : LineRange) :
    RightOutside gone grammar texts cache := by
  constructor
  · rw [right]
  · rw [right]

/-- A list is another one if they agree on the front, on what follows it, and behind that. -/
theorem eq_of_parts
    {front rest whole : List α}
    {first stop : Nat}
    (reached : front.length = first)
    (ordered : first ≤ stop)
    (sameFront : front = whole.take first)
    (sameBetween : rest.take (stop - first) = (whole.drop first).take (stop - first))
    (sameBehind : (front ++ rest).drop stop = whole.drop stop) :
    front ++ rest = whole := by
  have skipped : first + (stop - first) = stop := by
    omega
  have restRight : rest = whole.drop first := by
    rw [List.drop_append, List.drop_eq_nil_of_le (by omega), List.nil_append, reached,
      ← skipped, ← List.drop_drop, skipped] at sameBehind
    rw [← List.take_append_drop (stop - first) rest, sameBetween, sameBehind,
      List.take_append_drop]
  rw [sameFront, restRight, List.take_append_drop]

/-- An update makes a cache right exactly if the states that it keeps are right. -/
theorem update_right_iff
    {cache : HighlightCache}
    {buffer : Buffer}
    {dirty : LineRange} :
    (cache.update grammar buffer dirty).2.states = statesOf grammar none buffer.lineTexts ↔
      RightOutside (cache.update grammar buffer dirty).1 grammar buffer.lineTexts
        (cache.update grammar buffer dirty).2 := by
  constructor
  · intro right
    exact .of_right right _
  · rintro ⟨before, behind⟩
    unfold update at before behind ⊢
    split
    · rfl
    · rename_i notEmpty
      rw [if_neg notEmpty] at before behind
      dsimp only at before behind ⊢
      have newCount : buffer.lineCount = buffer.lineTexts.length := by
        rw [Buffer.length_lineTexts]
        rfl
      have someLine : 0 < buffer.lineCount :=
        List.length_pos_iff.mpr (Text.lines_ne_nil buffer.text)
      have firstInside : min dirty.first (buffer.lineCount - 1) < buffer.lineCount := by
        omega
      generalize min dirty.first (buffer.lineCount - 1) = first at before behind firstInside ⊢
      generalize max (min dirty.last (buffer.lineCount - 1)) first = last at before behind ⊢
      have asMany : (realign cache.states first buffer.lineCount).length = buffer.lineCount :=
        length_realign
      generalize realign cache.states first buffer.lineCount = aligned at *
      have reached : (aligned.take first).length = first :=
        List.length_take_of_le (by omega)
      rw [List.take_append_of_le_length (Nat.le_of_eq reached.symm), List.take_take,
        Nat.min_self] at before
      have incoming : (HighlightCache.mk aligned).stateBefore first = _ :=
        stateBefore_eq (by omega) before
      rw [incoming] at behind ⊢
      have restLength : (aligned.drop first).length = (buffer.lineTexts.drop first).length := by
        rw [List.length_drop, List.length_drop, asMany, newCount]
      obtain ⟨goesOn, gone⟩ :=
        @settle_gone_through grammar _ last first
          (carryThrough grammar none (buffer.lineTexts.take first)) _ restLength
      rw [← statesOf_drop] at gone
      generalize
        settle grammar last first (carryThrough grammar none (buffer.lineTexts.take first))
          (buffer.lineTexts.drop first) (aligned.drop first) = settled at *
      exact eq_of_parts reached (Nat.le_succ_of_le goesOn) before gone behind

end ChordEditor.HighlightCache
