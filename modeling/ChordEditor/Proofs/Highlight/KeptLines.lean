import ChordEditor.Proofs.Highlight.Update

namespace ChordEditor.HighlightCache

/-!
# Lines that an update leaves alone

Going through lines stops at the first line, from the last touched one on, that ends with
the state it had.  That state stays where it is, and so do all states behind it
(`settle_kept`).  Lines behind the place where it stops therefore begin and end as they
did, and if the touched lines cover the change their text is the old one as well.
-/

variable {grammar : Grammar} {states : List CarryState} {last line : Nat}
variable {incoming : CarryState} {texts : List (List Char)}

/-- Going through lines gets as far as the last touched one, and stops at a line. -/
theorem settle_stops
    (sameLength : states.length = texts.length)
    (someLine : texts ≠ [])
    (inside : last < line + texts.length) :
    last ≤ (settle grammar last line incoming texts states).1 ∧
      (settle grammar last line incoming texts states).1 < line + texts.length := by
  fun_induction settle grammar last line incoming texts states with
  | case1 line incoming text texts old olds outgoing stops =>
      rw [List.length_cons] at inside ⊢
      rcases stops with ⟨isBehind, _⟩ | rfl
      · exact ⟨isBehind, Nat.lt_add_of_pos_right (Nat.succ_pos _)⟩
      · exact ⟨Nat.le_of_lt_succ inside, Nat.lt_succ_self line⟩
  | case2 line incoming text texts old olds outgoing goesOn stop settled rest
      inductionHypothesis =>
      rw [rest] at inductionHypothesis
      rw [List.length_cons] at inside ⊢
      have moreLines : texts ≠ [] := fun noMore => goesOn (.inr noMore)
      have restStops :=
        inductionHypothesis (Nat.succ.inj sameLength) moreLines (by omega)
      exact ⟨restStops.1, by dsimp only at restStops ⊢; omega⟩
  | case3 texts line incoming states noLine =>
      cases texts with
      | nil =>
          exact absurd rfl someLine
      | cons text texts =>
          obtain ⟨old, olds, rfl⟩ := List.exists_cons_of_length_eq_add_one sameLength
          exact absurd rfl (noLine text texts old olds rfl)

/-- From the line where it stops, if it is not the last one, the states are as they were. -/
theorem settle_kept
    (sameLength : states.length = texts.length)
    (moreBehind :
      (settle grammar last line incoming texts states).1 + 1 < line + texts.length) :
    (settle grammar last line incoming texts states).2.drop
        ((settle grammar last line incoming texts states).1 - line) =
      states.drop ((settle grammar last line incoming texts states).1 - line) := by
  fun_induction settle grammar last line incoming texts states with
  | case1 line incoming text texts old olds outgoing stops =>
      rcases stops with ⟨_, endsAsBefore⟩ | rfl
      · rw [endsAsBefore]
      · rw [List.length_singleton] at moreBehind
        exact absurd moreBehind (Nat.lt_irrefl _)
  | case2 line incoming text texts old olds outgoing goesOn stop settled rest
      inductionHypothesis =>
      have restLength : olds.length = texts.length := Nat.succ.inj sameLength
      have goesForward : line + 1 ≤ stop := by
        have gone :=
          @settle_gone_through grammar olds last (line + 1) outgoing texts restLength
        rw [rest] at gone
        exact gone.1
      rw [rest] at inductionHypothesis
      rw [List.length_cons] at moreBehind
      dsimp only at moreBehind inductionHypothesis ⊢
      have oneMore : stop - line = stop - (line + 1) + 1 := by
        omega
      rw [oneMore, List.drop_succ_cons, List.drop_succ_cons]
      exact inductionHypothesis restLength (by omega)
  | case3 =>
      rfl

/-- It goes on from a line behind the touched ones only if that ends in another state. -/
theorem settle_goes_on :
    ∀ index, last ≤ line + index →
      line + index < (settle grammar last line incoming texts states).1 →
        (settle grammar last line incoming texts states).2[index]? ≠ states[index]? := by
  fun_induction settle grammar last line incoming texts states with
  | case1 line incoming text texts old olds outgoing stops =>
      intro index _ goesOn
      exact absurd goesOn (Nat.not_lt.mpr (Nat.le_add_right line index))
  | case2 line incoming text texts old olds outgoing notSettled stop settled rest
      inductionHypothesis =>
      rw [rest] at inductionHypothesis
      intro index isBehind goesOn
      dsimp only at goesOn inductionHypothesis ⊢
      cases index with
      | zero =>
          rw [List.getElem?_cons_zero, List.getElem?_cons_zero]
          intro same
          exact notSettled (.inl ⟨isBehind, (Option.some.inj same).symm⟩)
      | succ index =>
          rw [List.getElem?_cons_succ, List.getElem?_cons_succ]
          exact inductionHypothesis index (by omega) (by omega)
  | case3 texts line incoming states =>
      intro index _ goesOn
      exact absurd goesOn (Nat.not_lt.mpr (Nat.le_add_right line index))

/--
Lines that are gone through, and states of a text with `count` lines: they begin at the
first touched one, go on behind the last touched one as long as the states differ from
those that there were, and leave all that is behind them.
-/
structure GoesOnWhileNew
    (dirty gone : LineRange)
    (count : Nat)
    (before after : List CarryState) : Prop where
  first : gone.first = dirty.first
  reaches : dirty.last ≤ gone.last
  inside : gone.last < count
  kept :
    gone.last + 1 < count →
      after.drop gone.last = before.drop (gone.last + before.length - count)
  isNew :
    ∀ line, dirty.last ≤ line → line < gone.last →
      after[line]? ≠ before[line + before.length - count]?

variable {cache : HighlightCache} {dirty : LineRange}

/-- An update goes on behind touched lines that cover a change while the states are new. -/
theorem update_goesOnWhileNew
    {buffer : Buffer}
    {old : List (List Char)}
    (covers : dirty.Covers old buffer.lineTexts)
    (sameCount : cache.states.length = old.length) :
    GoesOnWhileNew dirty (cache.update grammar buffer dirty).1 buffer.lineCount
      cache.states (cache.update grammar buffer dirty).2.states := by
  have ordered := covers.ordered
  have inside := covers.inside
  have room := covers.room
  have newCount : buffer.lineCount = buffer.lineTexts.length := by
    rw [Buffer.length_lineTexts]
    rfl
  have notEmpty : cache.states ≠ [] :=
    List.ne_nil_of_length_pos (by omega)
  rw [update_of_inside notEmpty ordered (by omega)]
  have asMany : (realign cache.states dirty.first buffer.lineCount).length = buffer.lineCount :=
    length_realign
  have alignedBehind :
      ∀ line, dirty.last ≤ line → line < buffer.lineCount →
        (realign cache.states dirty.first buffer.lineCount).drop line =
          cache.states.drop (line + cache.states.length - buffer.lineCount) :=
    fun line isBehind isLine => realign_drop (by omega) isLine (by omega)
  dsimp only
  generalize realign cache.states dirty.first buffer.lineCount = aligned at *
  generalize (HighlightCache.mk aligned).stateBefore dirty.first = incoming
  have reached : (aligned.take dirty.first).length = dirty.first :=
    List.length_take_of_le (by omega)
  have restLength :
      (aligned.drop dirty.first).length = (buffer.lineTexts.drop dirty.first).length := by
    rw [List.length_drop, List.length_drop, asMany, newCount]
  have textsLeft :
      dirty.first + (buffer.lineTexts.drop dirty.first).length = buffer.lineCount := by
    rw [List.length_drop]
    omega
  have stops :=
    @settle_stops grammar _ dirty.last dirty.first incoming _ restLength
      (List.ne_nil_of_length_pos (by omega)) (by omega)
  have kept := @settle_kept grammar _ dirty.last dirty.first incoming _ restLength
  have isNew :=
    @settle_goes_on grammar (aligned.drop dirty.first) dirty.last dirty.first incoming
      (buffer.lineTexts.drop dirty.first)
  rw [textsLeft] at stops kept
  generalize
    settle grammar dirty.last dirty.first incoming (buffer.lineTexts.drop dirty.first)
      (aligned.drop dirty.first) = settled at *
  constructor
  · rfl
  · exact stops.1
  · exact stops.2
  · intro moreBehind
    have keptBehind := kept moreBehind
    rw [List.drop_drop, Nat.add_sub_cancel' (Nat.le_trans ordered stops.1)] at keptBehind
    have pastFront : (aligned.take dirty.first).length ≤ settled.1 := by
      omega
    rw [List.drop_append, List.drop_eq_nil_of_le pastFront, List.nil_append, reached,
      keptBehind, alignedBehind _ stops.1 stops.2]
  · intro line isBehind goesOn
    have isBefore : line < settled.1 := goesOn
    have skipped : dirty.first + (line - dirty.first) = line := by
      omega
    have differs := isNew (line - dirty.first) (by omega) (by omega)
    have alignedHere :
        aligned[line]? = cache.states[line + cache.states.length - buffer.lineCount]? := by
      rw [← List.head?_drop, alignedBehind line isBehind (by omega), List.head?_drop]
    rwa [List.getElem?_drop, skipped, alignedHere, ← reached,
      ← List.getElem?_append_right (by omega)] at differs

/-- What a highlighted line shows, and the construct left open at its end. -/
def shown
    (cache : HighlightCache)
    (grammar : Grammar)
    (buffer : Buffer)
    (line : Nat) : List Paint × CarryState :=
  (Highlight.lineSpans grammar (buffer.lineText line) (cache.stateBefore line),
    cache.stateAfter line)

section Shown

variable {other : HighlightCache} {buffer otherBuffer : Buffer} {otherLine : Nat}

/-- A line that begins like another one, and has its text and its end, shows the same. -/
theorem shown_eq
    (sameText : buffer.lineTexts[line]? = otherBuffer.lineTexts[otherLine]?)
    (sameStart : cache.stateBefore line = other.stateBefore otherLine)
    (sameEnd : cache.states[line]? = other.states[otherLine]?) :
    cache.shown grammar buffer line = other.shown grammar otherBuffer otherLine := by
  have sameLine : buffer.lineText line = otherBuffer.lineText otherLine := by
    unfold Buffer.lineTexts at sameText
    rw [List.getElem?_map, List.getElem?_map] at sameText
    exact congrArg (Option.getD · []) sameText
  unfold shown stateAfter
  rw [sameLine, sameStart, sameEnd]

/-- Lines before which texts and states agree show the same. -/
theorem shown_eq_of_take
    {count : Nat}
    (sameTexts : buffer.lineTexts.take count = otherBuffer.lineTexts.take count)
    (sameStates : cache.states.take count = other.states.take count)
    (isBefore : line < count) :
    cache.shown grammar buffer line = other.shown grammar otherBuffer line := by
  have sameState : ∀ index, index < count → cache.states[index]? = other.states[index]? := by
    intro index inFront
    rw [← List.getElem?_take_of_lt inFront, sameStates, List.getElem?_take_of_lt inFront]
  apply shown_eq
  · rw [← List.getElem?_take_of_lt isBefore, sameTexts, List.getElem?_take_of_lt isBefore]
  · cases line with
    | zero =>
        rfl
    | succ line =>
        exact congrArg Option.join (sameState line (Nat.lt_of_succ_lt isBefore))
  · exact sameState line isBefore

/-- Lines behind which texts agree, and from which states do, show the same. -/
theorem shown_eq_of_drop
    {index otherIndex distance : Nat}
    (sameTexts :
      buffer.lineTexts.drop (index + 1) = otherBuffer.lineTexts.drop (otherIndex + 1))
    (sameStates : cache.states.drop index = other.states.drop otherIndex) :
    cache.shown grammar buffer (index + 1 + distance) =
      other.shown grammar otherBuffer (otherIndex + 1 + distance) := by
  have sameState :
      ∀ distance, cache.states[index + distance]? = other.states[otherIndex + distance]? := by
    intro distance
    rw [← List.getElem?_drop, sameStates, List.getElem?_drop]
  apply shown_eq
  · rw [← List.getElem?_drop, sameTexts, List.getElem?_drop]
  · rw [Nat.add_right_comm index, Nat.add_right_comm otherIndex]
    exact congrArg Option.join (sameState distance)
  · rw [Nat.add_assoc, Nat.add_assoc]
    exact sameState (1 + distance)

end Shown

section GoneThrough

variable {before after : HighlightCache} {gone : LineRange} {old new : Buffer}

/-- The old text has as many lines as are before the touched ones, one, and those behind. -/
theorem room_for_lines (covers : dirty.Covers old.lineTexts new.lineTexts) :
    dirty.first + new.lineCount ≤ old.lineCount + dirty.last := by
  have room := covers.room
  rwa [Buffer.length_lineTexts, Buffer.length_lineTexts] at room

/-- Lines behind those that were gone through show what they showed. -/
theorem GoesOnWhileNew.shown_behind
    (goes : GoesOnWhileNew dirty gone new.lineCount before.states after.states)
    (covers : dirty.Covers old.lineTexts new.lineTexts)
    (sameCount : before.states.length = old.lineCount)
    (isBehind : gone.last < line)
    (isLine : line < new.lineCount) :
    after.shown grammar new line =
      before.shown grammar old (line + old.lineCount - new.lineCount) := by
  have room := room_for_lines covers
  have ordered := covers.ordered
  have reaches := goes.reaches
  obtain ⟨distance, rfl⟩ := Nat.exists_eq_add_of_lt isBehind
  have oldLast :
      gone.last + 1 + old.lineTexts.length - new.lineTexts.length =
        gone.last + old.lineCount - new.lineCount + 1 := by
    rw [Buffer.length_lineTexts, Buffer.length_lineTexts]
    show _ + old.lineCount - new.lineCount = _
    omega
  have sameTexts := covers.drop_eq (Nat.lt_succ_of_le reaches)
  rw [oldLast] at sameTexts
  have sameStates := goes.kept (by omega)
  rw [sameCount] at sameStates
  have oldLine :
      gone.last + distance + 1 + old.lineCount - new.lineCount =
        gone.last + old.lineCount - new.lineCount + 1 + distance := by
    omega
  rw [oldLine, Nat.add_right_comm gone.last]
  exact shown_eq_of_drop sameTexts sameStates

/-- Lines from the last touched one that were gone through, but for the last, end anew. -/
theorem GoesOnWhileNew.stateAfter_ne
    (goes : GoesOnWhileNew dirty gone new.lineCount before.states after.states)
    (covers : dirty.Covers old.lineTexts new.lineTexts)
    (sameCount : before.states.length = old.lineCount)
    (newCount : after.states.length = new.lineCount)
    (isBehind : dirty.last ≤ line)
    (goesOn : line < gone.last) :
    after.stateAfter line ≠ before.stateAfter (line + old.lineCount - new.lineCount) := by
  have room := room_for_lines covers
  have ordered := covers.ordered
  have inside := goes.inside
  have isNew := goes.isNew line isBehind goesOn
  rw [sameCount] at isNew
  intro sameEnd
  unfold stateAfter at sameEnd
  rw [List.getElem?_eq_getElem (by omega), List.getElem?_eq_getElem (by omega)]
    at isNew sameEnd
  exact isNew (congrArg some sameEnd)

end GoneThrough

/--
If a cache is what going through the old lines gives, and the touched lines cover the
change, an update makes it what going through the new lines gives.  It goes through the
lines from the first touched one to the last touched one at least, and from there only as
long as they end in another state than before.  All other lines show what they showed in
the old text, those behind as far from its end.
-/
theorem update_leaves_other_lines
    {old new : Buffer}
    (covers : dirty.Covers old.lineTexts new.lineTexts)
    (wasRight : cache = (rebuild grammar old).2) :
    let gone := (cache.update grammar new dirty).1
    let updated := (cache.update grammar new dirty).2
    updated = (rebuild grammar new).2 ∧
      (∀ line, line < gone.first →
        updated.shown grammar new line = cache.shown grammar old line) ∧
      (∀ line, gone.last < line → line < new.lineCount →
        updated.shown grammar new line =
          cache.shown grammar old (line + old.lineCount - new.lineCount)) ∧
      gone.first = dirty.first ∧ dirty.last ≤ gone.last ∧ gone.last < new.lineCount ∧
      ∀ line, dirty.last ≤ line → line < gone.last →
        updated.stateAfter line ≠
          cache.stateAfter (line + old.lineCount - new.lineCount) := by
  intro gone updated
  have statesWere : cache.states = statesOf grammar none old.lineTexts :=
    congrArg HighlightCache.states wasRight
  have statesAre : updated.states = statesOf grammar none new.lineTexts :=
    update_states covers statesWere
  have oldCount : cache.states.length = old.lineCount := by
    rw [statesWere, length_statesOf, Buffer.length_lineTexts]
    rfl
  have newCount : updated.states.length = new.lineCount := by
    rw [statesAre, length_statesOf, Buffer.length_lineTexts]
    rfl
  have goes : GoesOnWhileNew dirty gone new.lineCount cache.states updated.states :=
    update_goesOnWhileNew covers (by rw [statesWere, length_statesOf])
  refine ⟨congrArg HighlightCache.mk statesAre, ?_, ?_, goes.first, goes.reaches, goes.inside, ?_⟩
  · intro line isBefore
    rw [goes.first] at isBefore
    apply shown_eq_of_take covers.same_before _ isBefore
    rw [statesAre, statesWere, ← statesOf_take, covers.same_before, statesOf_take]
  · intro line isBehind isLine
    exact goes.shown_behind covers oldCount isBehind isLine
  · intro line isTouched goesOn
    exact goes.stateAfter_ne covers oldCount newCount isTouched goesOn

/-- A comment that is closed a line earlier: what was behind its end shows the same. -/
theorem comment_closed_earlier :
    let grammar : Grammar :=
      { name := "", commentMarker := [], constructs := [⟨['<'], ['>'], .comment⟩] }
    let old := Buffer.ofText ['<', '\n', 'a', '\n', '>', '\n', 'b']
    let new := Buffer.ofText ['<', '\n', '>', '\n', 'a', '\n', '>', '\n', 'b']
    let cache := (rebuild grammar old).2
    let dirty := LineRange.mk 1 2
    dirty.Covers old.lineTexts new.lineTexts ∧
      (cache.update grammar new dirty).1 = ⟨1, 3⟩ ∧
        (cache.update grammar new dirty).2.shown grammar new 4 = cache.shown grammar old 3 := by
  intro grammar old new cache dirty
  have covers : dirty.Covers old.lineTexts new.lineTexts := by
    constructor <;> decide
  have opens : Highlight.carryAfter grammar ['<'] none = some 1 :=
    carryAfter_of_unclosed rfl
  have staysOpen : Highlight.carryAfter grammar ['a'] (some 1) = some 1 := rfl
  have closes : Highlight.carryAfter grammar ['>'] (some 1) = none := by
    show ((grammar.scanOn? [⟨0, 1, .comment⟩] 1 []).getD ([], none)).2 = none
    rw [Grammar.scanOn?]
    rfl
  have outside : ∀ text ∈ [['a'], ['b'], ['>']],
      Highlight.carryAfter grammar text none = none := by
    intro text isLine
    simp only [List.mem_cons, List.not_mem_nil, or_false] at isLine
    obtain rfl | rfl | rfl := isLine <;> exact carryAfter_of_outside rfl
  have cacheIs : cache = ⟨[some 1, some 1, none, none]⟩ := by
    show HighlightCache.mk (statesOf grammar none [['<'], ['a'], ['>'], ['b']]) = _
    simp [statesOf, opens, staysOpen, closes, outside]
  have goneThrough : (cache.update grammar new dirty).1 = ⟨1, 3⟩ := by
    rw [cacheIs]
    show LineRange.mk 1 (settle grammar 2 1 (some 1) [['>'], ['a'], ['>'], ['b']]
      [none, some 1, none, none]).1 = _
    simp [settle, closes, outside]
  obtain ⟨_, _, behind, _⟩ := @update_leaves_other_lines grammar cache dirty old new covers rfl
  rw [goneThrough] at behind
  exact ⟨covers, goneThrough, behind 4 (by decide) (by decide)⟩

end ChordEditor.HighlightCache
