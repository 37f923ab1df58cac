import ChordEditor.Search

namespace ChordEditor.SearchState

/-!
# Going to the next and the previous match

Both ways start from the match that is nearest to a place, which may lie before the place,
behind it or right there.  All the same they take the matches in the order of the text:
counted from where the place stands among them, and around at the ends
(`next?_previous?_in_order`).
-/

/-- Where the matches start. -/
def starts (state : SearchState) : List Nat :=
  state.matched.map Span.start

theorem startOf?_eq
    (state : SearchState)
    (index : Nat) :
    state.startOf? index = state.starts[index]? := by
  rw [startOf?, starts, List.getElem?_map]

/-! ## The nearest match -/

/-- The start with an index is as near to a place as any other, and nearer than those before it. -/
structure IsNearest
    (places : List Nat)
    (place index start : Nat) : Prop where
  found : places[index]? = some start
  nearest :
    ∀ other otherStart : Nat, places[other]? = some otherStart →
      distance start place ≤ distance otherStart place
  earliest :
    ∀ other otherStart : Nat, places[other]? = some otherStart → other < index →
      distance start place < distance otherStart place

/-- The nearer one of a match found before and the next one. -/
def nearer
    (place : Nat)
    (nearest : Option (Nat × Nat))
    (next : Span × Nat) : Option (Nat × Nat) :=
  match nearest with
  | none => some (distance next.1.start place, next.2)
  | some (apart, _) =>
      if distance next.1.start place < apart then
        some (distance next.1.start place, next.2)
      else
        nearest

theorem nearestIndex?_eq
    (state : SearchState)
    (place : Nat) :
    state.nearestIndex? place =
      (state.matched.zipIdx.foldl (nearer place) none).map Prod.snd :=
  rfl

section Nearest

variable {places : List Nat} {place index start : Nat}

/-- What stands at an index of a list that has one more member. -/
theorem getElem?_concat_cases
    {last other otherStart : Nat}
    (found : (places ++ [last])[other]? = some otherStart) :
    places[other]? = some otherStart ∨ other = places.length ∧ otherStart = last := by
  have isIndex := (List.getElem?_eq_some_iff.mp found).1
  rw [List.length_append, List.length_singleton] at isIndex
  rcases Nat.eq_or_lt_of_le (Nat.le_of_lt_succ isIndex) with rfl | inside
  · rw [List.getElem?_concat_length] at found
    exact .inr ⟨rfl, (Option.some.inj found).symm⟩
  · rw [List.getElem?_append_left inside] at found
    exact .inl found

/-- A start that is nearer than the nearest one so far is the nearest one. -/
theorem IsNearest.of_nearer
    {last : Nat}
    (isNearest : IsNearest places place index start)
    (isNearer : distance last place < distance start place) :
    IsNearest (places ++ [last]) place places.length last := by
  have further
      {other otherStart : Nat}
      (found : places[other]? = some otherStart) :
      distance last place < distance otherStart place :=
    Nat.lt_of_lt_of_le isNearer (isNearest.nearest other otherStart found)
  constructor
  · simp
  · intro other otherStart found
    rcases getElem?_concat_cases found with isEarlier | ⟨_, rfl⟩
    · exact Nat.le_of_lt (further isEarlier)
    · exact Nat.le_refl _
  · intro other otherStart found before
    rcases getElem?_concat_cases found with isEarlier | ⟨rfl, _⟩
    · exact further isEarlier
    · exact absurd before (Nat.lt_irrefl _)

/-- A start that is not nearer than the nearest one so far leaves that the nearest one. -/
theorem IsNearest.of_not_nearer
    {last : Nat}
    (isNearest : IsNearest places place index start)
    (notNearer : ¬ distance last place < distance start place) :
    IsNearest (places ++ [last]) place index start := by
  have isIndex := (List.getElem?_eq_some_iff.mp isNearest.found).1
  constructor
  · rw [List.getElem?_append_left isIndex]
    exact isNearest.found
  · intro other otherStart found
    rcases getElem?_concat_cases found with isEarlier | ⟨_, rfl⟩
    · exact isNearest.nearest other otherStart isEarlier
    · exact Nat.le_of_not_lt notNearer
  · intro other otherStart found before
    rcases getElem?_concat_cases found with isEarlier | ⟨rfl, _⟩
    · exact isNearest.earliest other otherStart isEarlier before
    · omega

/-- From the nearest one of some matches on, the search gives the nearest one of all. -/
theorem foldl_nearer
    (spans : List Span)
    (isNearest : IsNearest places place index start) :
    ∃ nearestIndex nearestStart,
      (spans.zipIdx places.length).foldl (nearer place) (some (distance start place, index)) =
          some (distance nearestStart place, nearestIndex) ∧
        IsNearest (places ++ spans.map Span.start) place nearestIndex nearestStart := by
  -- The matches seen so far are kept beside the fold: their number is the next index.
  induction spans generalizing places index start with
  | nil =>
      refine ⟨index, start, rfl, ?_⟩
      rw [List.map_nil, List.append_nil]
      exact isNearest
  | cons span spans inductionHypothesis =>
      have longer : (places ++ [span.start]).length = places.length + 1 := by
        simp
      have goesOn
          {index start : Nat}
          (isNearest : IsNearest (places ++ [span.start]) place index start) :=
        inductionHypothesis isNearest
      rw [longer, List.append_assoc, List.singleton_append] at goesOn
      rw [List.zipIdx_cons, List.foldl_cons, nearer, List.map_cons]
      dsimp only
      split
      · rename_i isNearer
        exact goesOn (isNearest.of_nearer isNearer)
      · rename_i notNearer
        exact goesOn (isNearest.of_not_nearer notNearer)

end Nearest

/-- If there are matches, the search for the nearest one gives it. -/
theorem nearestIndex?_isNearest
    {state : SearchState}
    (someMatch : state.matched ≠ [])
    (place : Nat) :
    ∃ index start,
      state.nearestIndex? place = some index ∧ IsNearest state.starts place index start := by
  obtain ⟨first, others, shape⟩ := List.exists_cons_of_ne_nil someMatch
  have isFirst : IsNearest [first.start] place 0 first.start :=
    { found := rfl
      nearest := by
        intro other otherStart found
        rcases @getElem?_concat_cases [] _ _ _ found with isEarlier | ⟨_, rfl⟩
        · simp at isEarlier
        · exact Nat.le_refl _
      earliest := by
        intro other otherStart _ before
        exact absurd before (Nat.not_lt_zero other) }
  obtain ⟨index, start, result, isNearest⟩ := foldl_nearer others isFirst
  refine ⟨index, start, ?_, ?_⟩
  · rw [nearestIndex?_eq, shape]
    exact congrArg (Option.map Prod.snd) result
  · rw [starts, shape, List.map_cons]
    exact isNearest

/-! ## The place among the matches -/

section Order

variable {places : List Nat} {test : Nat → Bool} {index start : Nat}

/-- In an ascending list a test that holds up to some member holds for so many members. -/
theorem lt_countP_iff
    (ascending : places.Pairwise (· < ·))
    (closed : ∀ lower upper, lower < upper → test upper = true → test lower = true)
    (found : places[index]? = some start) :
    index < places.countP test ↔ test start = true := by
  induction places generalizing index with
  | nil =>
      contradiction
  | cons first others inductionHypothesis =>
      obtain ⟨isFirst, ascending⟩ := List.pairwise_cons.mp ascending
      rw [List.countP_cons]
      cases holds : test first with
      | false =>
          have none (other : Nat) (isOther : other ∈ first :: others) : ¬ test other = true := by
            intro otherHolds
            rcases List.mem_cons.mp isOther with rfl | isLater
            · rw [otherHolds] at holds
              contradiction
            · rw [closed first other (isFirst other isLater) otherHolds] at holds
              contradiction
          have noneLater : others.countP test = 0 := by
            rw [List.countP_eq_zero]
            exact fun other isLater => none other (List.mem_cons_of_mem first isLater)
          rw [noneLater]
          exact iff_of_false (Nat.not_lt_zero index) (none start (List.mem_of_getElem? found))
      | true =>
          cases index with
          | zero =>
              obtain rfl : first = start := Option.some.inj found
              exact iff_of_true (Nat.succ_pos _) holds
          | succ index =>
              rw [if_pos rfl, Nat.add_lt_add_iff_right]
              exact inductionHypothesis ascending found

theorem lt_of_ascending
    {other otherStart : Nat}
    (ascending : places.Pairwise (· < ·))
    (found : places[index]? = some start)
    (otherFound : places[other]? = some otherStart)
    (ordered : index < other) :
    start < otherStart := by
  obtain ⟨isIndex, rfl⟩ := List.getElem?_eq_some_iff.mp found
  obtain ⟨isOther, rfl⟩ := List.getElem?_eq_some_iff.mp otherFound
  exact List.pairwise_iff_getElem.mp ascending index other isIndex isOther ordered

/-- Of two starts on the same side of a place the one closer to it is nearer. -/
theorem distance_lt
    {near far place : Nat}
    (between : far < near ∧ near ≤ place ∨ place ≤ near ∧ near < far) :
    distance near place < distance far place := by
  unfold distance
  omega

/--
A place cuts the ascending starts in two.  The nearest one is the last one of the first
part or the first one of the second part.
-/
theorem IsNearest.countP_eq
    {place : Nat}
    (ascending : places.Pairwise (· < ·))
    (isNearest : IsNearest places place index start)
    (before : ∀ other, test other = true → other ≤ place)
    (behind : ∀ other, test other = false → place ≤ other) :
    places.countP test = if test start = true then index + 1 else index := by
  have closed (lower upper : Nat) (ordered : lower < upper) (holds : test upper = true) :
      test lower = true := by
    have upperBefore := before upper holds
    rw [← Bool.not_eq_false]
    intro fails
    have lowerBehind := behind lower fails
    omega
  have counted {other otherStart : Nat} (found : places[other]? = some otherStart) :=
    lt_countP_iff ascending closed found
  have atMost := places.countP_le_length (p := test)
  -- Any start between the nearest one and the place would be nearer.
  split
  · rename_i holds
    apply Nat.le_antisymm ?_ ((counted isNearest.found).mpr holds)
    apply Nat.le_of_not_lt
    intro further
    have found := List.getElem?_eq_getElem (Nat.lt_of_lt_of_le further atMost)
    have ordered := lt_of_ascending ascending isNearest.found found (Nat.lt_succ_self index)
    have nextBefore := before _ ((counted found).mp further)
    have nearer := distance_lt (.inl ⟨ordered, nextBefore⟩)
    exact absurd (isNearest.nearest _ _ found) (Nat.not_le_of_lt nearer)
  · rename_i fails
    have notFurther := Nat.le_of_not_lt (mt (counted isNearest.found).mp fails)
    apply Nat.le_antisymm notFurther
    apply Nat.le_of_not_lt
    intro earlier
    have isIndex := (List.getElem?_eq_some_iff.mp isNearest.found).1
    have found := List.getElem?_eq_getElem (Nat.lt_trans earlier isIndex)
    have ordered := lt_of_ascending ascending found isNearest.found earlier
    have otherFails := Bool.eq_false_iff.mpr (mt (counted found).mpr (Nat.lt_irrefl _))
    have nearer := distance_lt (.inr ⟨behind _ otherFails, ordered⟩)
    exact absurd (isNearest.nearest _ _ found) (Nat.not_le_of_lt nearer)

end Order

/-! ## Walking -/

section Walk

variable {state : SearchState} {place index start : Nat}

/-- Steps back around a list, with the index counted on below the first one. -/
theorem stepBack_eq
    {size steps : Nat}
    (someSize : 0 < size) :
    (index + size - steps % size) % size = (((index : Int) - steps) % size).toNat := by
  have within := Nat.mod_lt steps someSize
  have once :
      ((index + size - steps % size : Nat) : Int) = index + size - (steps : Int) % size := by
    omega
  have same :
      ((index + size - steps % size : Nat) : Int) % size = ((index : Int) - steps) % size := by
    rw [once, Int.sub_emod, Int.add_emod_right, Int.emod_emod, ← Int.sub_emod]
  rw [← same]
  rfl

/-- The next matches are counted from those that start at the place or before it. -/
theorem next?_eq
    (ascending : state.starts.Pairwise (· < ·))
    (isIndex : state.nearestIndex? place = some index)
    (isNearest : IsNearest state.starts place index start)
    {count : Nat}
    (someCount : 1 ≤ count) :
    state.next? place count =
      state.starts[(state.starts.countP (· ≤ place) + count - 1) % state.starts.length]? := by
  have rank :=
    @IsNearest.countP_eq _ (fun other => other ≤ place) _ _ _ ascending isNearest (by simp)
      (by simp; omega)
  have size : state.matched.length = state.starts.length := by
    rw [starts, List.length_map]
  have steps :
      index + stepsLeft count (start > place) = state.starts.countP (· ≤ place) + count - 1 := by
    rw [rank]
    simp only [stepsLeft, decide_eq_true_eq]
    split <;> split <;> omega
  simp only [next?, isIndex, Option.bind_eq_bind, Option.bind_some, startOf?_eq, isNearest.found,
    size, Nat.add_mod_mod, steps]

/-- The previous matches are counted from those that start before the place. -/
theorem previous?_eq
    (ascending : state.starts.Pairwise (· < ·))
    (isIndex : state.nearestIndex? place = some index)
    (isNearest : IsNearest state.starts place index start)
    {count : Nat}
    (someCount : 1 ≤ count) :
    state.previous? place count =
      state.starts[(((state.starts.countP (· < place) : Int) - count) %
        state.starts.length).toNat]? := by
  have rank :=
    @IsNearest.countP_eq _ (fun other => other < place) _ _ _ ascending isNearest (by simp; omega)
      (by simp)
  have size : state.matched.length = state.starts.length := by
    rw [starts, List.length_map]
  have inList := (List.getElem?_eq_some_iff.mp isNearest.found).1
  have steps :
      (index : Int) - stepsLeft count (start < place) =
        (state.starts.countP (· < place) : Int) - count := by
    rw [rank]
    simp only [stepsLeft, decide_eq_true_eq]
    split <;> omega
  simp only [previous?, isIndex, Option.bind_eq_bind, Option.bind_some, startOf?_eq,
    isNearest.found, size, stepBack_eq (Nat.lt_of_le_of_lt (Nat.zero_le index) inList), steps]

/--
Of matches that start in ascending order, the next one is the first one that starts behind
the place, and the previous one is the last one that starts before it.  Further ones follow
in order, around at the ends.  Both ways start from the nearest match, the earliest if two
are as near.
-/
theorem next?_previous?_in_order
    (someMatch : state.matched ≠ [])
    (ascending : state.starts.Pairwise (· < ·))
    (place : Nat)
    {count : Nat}
    (someCount : 1 ≤ count) :
    let starts := state.starts
    let size := starts.length
    (∃ next,
        starts[(starts.countP (· ≤ place) + count - 1) % size]? = some next ∧
          state.next? place count = some next) ∧
      (∃ previous,
        starts[(((starts.countP (· < place) : Int) - count) % size).toNat]? = some previous ∧
          state.previous? place count = some previous) ∧
        ∃ index start,
          state.nearestIndex? place = some index ∧ IsNearest starts place index start := by
  intro starts size
  obtain ⟨index, start, isIndex, isNearest⟩ := nearestIndex?_isNearest someMatch place
  have inList := (List.getElem?_eq_some_iff.mp isNearest.found).1
  have someSize : 0 < size :=
    Nat.lt_of_le_of_lt (Nat.zero_le index) inList
  have isNext :=
    List.getElem?_eq_getElem (Nat.mod_lt (starts.countP (· ≤ place) + count - 1) someSize)
  have previousIndex :
      (((starts.countP (· < place) : Int) - count) % size).toNat < size := by
    have within :=
      Int.emod_lt_of_pos ((starts.countP (· < place) : Int) - count)
        (Int.natCast_pos.mpr someSize)
    omega
  have isPrevious := List.getElem?_eq_getElem previousIndex
  exact
    ⟨⟨_, isNext, (next?_eq ascending isIndex isNearest someCount).trans isNext⟩,
      ⟨_, isPrevious, (previous?_eq ascending isIndex isNearest someCount).trans isPrevious⟩,
      index, start, isIndex, isNearest⟩

/--
From a place as near to the match before it as to the one behind it the walk starts at the
earlier one, and both ways go around at the ends more than once.
-/
theorem walk_from_between_two_matches :
    let state := ({} : SearchState).set "ab".toList false (Buffer.ofText "ab....ab....ab".toList)
    (state.matched ≠ [] ∧ state.starts.Pairwise (· < ·) ∧ 1 ≤ 4 ∧ 1 ≤ 5) ∧
      state.nearestIndex? 3 = some 0 ∧
        state.next? 3 4 = some 6 ∧ state.previous? 3 5 = some 12 := by
  intro state
  have someMatch : state.matched ≠ [] := by
    decide +kernel
  have ascending : state.starts.Pairwise (· < ·) := by
    decide +kernel
  obtain ⟨⟨next, isNext, goesOn⟩, _⟩ :=
    next?_previous?_in_order someMatch ascending 3 (show 1 ≤ 4 by decide)
  obtain ⟨_, ⟨previous, isPrevious, goesBack⟩, _⟩ :=
    next?_previous?_in_order someMatch ascending 3 (show 1 ≤ 5 by decide)
  obtain rfl : 6 = next := by
    apply Option.some.inj
    rw [← isNext]
    decide +kernel
  obtain rfl : 12 = previous := by
    apply Option.some.inj
    rw [← isPrevious]
    decide +kernel
  exact
    ⟨⟨someMatch, ascending, by decide, by decide⟩, by decide +kernel, goesOn, goesBack⟩

end Walk

end ChordEditor.SearchState
