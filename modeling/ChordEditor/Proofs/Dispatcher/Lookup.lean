import ChordEditor.Dispatcher

namespace ChordEditor

/-!
# Looking up unambiguous chords

Of the chords that a press could go on with, the one bound first decides.  In an
unambiguous table the order does not matter: a press that goes on with a bound chord is
looked up as what it is in that chord (`Dispatcher.lookUp_of_bound`), whatever else is
bound in front of it.
-/

/-- The fragments in which two chords first differ, if they differ before either ends. -/
def Fragment.parting? : List Fragment → List Fragment → Option (Fragment × Fragment)
  | first :: rest, second :: more =>
      if first = second then
        parting? rest more
      else
        some (first, second)
  | _, _ => none

theorem Fragment.parting?_append
    (shared rest more : List Fragment)
    {fragment other : Fragment}
    (different : fragment ≠ other) :
    parting? (shared ++ fragment :: rest) (shared ++ other :: more) =
      some (fragment, other) := by
  induction shared with
  | nil =>
      simp [parting?, different]
  | cons next shared inductionHypothesis =>
      simp [parting?, inductionHypothesis]

namespace KeyTable

/-- No chord starts another one, and no press matches two chords where they part. -/
structure Unambiguous (table : KeyTable) : Prop where
  prefixFree :
    ∀ first ∈ table.bindings, ∀ second ∈ table.bindings,
      first.chord.fragments <+: second.chord.fragments →
        first.chord = second.chord
  parted :
    ∀ first ∈ table.bindings, ∀ second ∈ table.bindings, ∀ fragment other,
      Fragment.parting? first.chord.fragments second.chord.fragments = some (fragment, other) →
        ∀ event, ¬((fragment.match? event).isSome ∧ (other.match? event).isSome)

variable {table : KeyTable}

theorem mem_of_get?_eq_some
    {chord : Chord}
    {action : Action}
    (bound : table.get? chord = some action) :
    ⟨chord, action⟩ ∈ table.bindings := by
  simp only [get?, Option.map_eq_some_iff] at bound
  obtain ⟨⟨found, _⟩, isFound, rfl⟩ := bound
  have sameChord : found = chord := by
    simpa using List.find?_some isFound
  subst sameChord
  exact List.mem_of_find?_eq_some isFound

/-- The first binding of a chord decides what the chord is bound to. -/
theorem get?_eq_of_first
    {before after : List Binding}
    {binding : Binding}
    (split : table.bindings = before ++ binding :: after)
    (first : ∀ earlier ∈ before, earlier.chord ≠ binding.chord) :
    table.get? binding.chord = some binding.action := by
  have notBefore : (before.find? fun earlier => earlier.chord = binding.chord) = none := by
    simpa using first
  simp [get?, split, List.find?_append, notBefore]

/-- Chords that go on from the same fragments and match the same press go on alike. -/
theorem Unambiguous.same_next
    (unambiguous : table.Unambiguous)
    {first second : Binding}
    (firstBound : first ∈ table.bindings)
    (secondBound : second ∈ table.bindings)
    {held rest more : List Fragment}
    {fragment other : Fragment}
    (firstSplit : first.chord.fragments = held ++ fragment :: rest)
    (secondSplit : second.chord.fragments = held ++ other :: more)
    {event : KeyEvent}
    {c d : Char}
    (matched : fragment.match? event = some c)
    (otherMatched : other.match? event = some d) :
    fragment = other ∧ c = d ∧ (first.chord = second.chord ∨ rest ≠ [] ∧ more ≠ []) := by
  obtain rfl : fragment = other := by
    apply Classical.byContradiction
    intro different
    have part := Fragment.parting?_append held rest more different
    rw [← firstSplit, ← secondSplit] at part
    apply unambiguous.parted first firstBound second secondBound fragment other part event
    simp [matched, otherMatched]
  refine ⟨rfl, Option.some.inj (matched.symm.trans otherMatched), ?_⟩
  rcases rest with _ | ⟨next, rest⟩
  · left
    apply unambiguous.prefixFree first firstBound second secondBound
    rw [firstSplit, secondSplit]
    exact ⟨more, by simp⟩
  rcases more with _ | ⟨nextOther, more⟩
  · left
    symm
    apply unambiguous.prefixFree second secondBound first firstBound
    rw [firstSplit, secondSplit]
    exact ⟨next :: rest, by simp⟩
  · right
    simp

end KeyTable

namespace Dispatcher

/-- A chord is gone on with by a press that matches its fragment after the held ones. -/
theorem stepThrough?_eq_some
    {held : List Fragment}
    {event : KeyEvent}
    {binding : Binding}
    {found : ChordStep} :
    stepThrough? held event binding = some found ↔
      ∃ fragment rest c,
        binding.chord.fragments = held ++ fragment :: rest ∧
          fragment.match? event = some c ∧
          found =
            if rest.isEmpty then .leaf binding.action fragment c else .deeper fragment c := by
  constructor
  · intro stepped
    simp only [stepThrough?] at stepped
    split at stepped
    · rename_i heldFirst
      split at stepped
      · contradiction
      · rename_i fragment rest following
        obtain ⟨c, matched, rfl⟩ := Option.map_eq_some_iff.mp stepped
        refine ⟨fragment, rest, c, ?_, matched, rfl⟩
        rw [← following]
        conv => rhs; lhs; rw [← heldFirst]
        exact (List.take_append_drop held.length binding.chord.fragments).symm
    · contradiction
  · rintro ⟨fragment, rest, c, split, matched, rfl⟩
    simp [stepThrough?, split, matched]

/-- What a press is found to lead to is the next fragment of a chord and what that is bound to. -/
theorem exists_binding_of_findSome?
    {table : KeyTable}
    {held : List Fragment}
    {event : KeyEvent}
    {found : ChordStep}
    (isFound : table.bindings.findSome? (stepThrough? held event) = some found) :
    ∃ binding ∈ table.bindings, ∃ fragment rest c,
      table.get? binding.chord = some binding.action ∧
        binding.chord.fragments = held ++ fragment :: rest ∧
        fragment.match? event = some c ∧
        found =
          if rest.isEmpty then .leaf binding.action fragment c else .deeper fragment c := by
  obtain ⟨before, binding, after, bindings, stepped, noneBefore⟩ :=
    List.findSome?_eq_some_iff.mp isFound
  obtain ⟨fragment, rest, c, split, matched, leadsTo⟩ := stepThrough?_eq_some.mp stepped
  -- An earlier binding of the same chord would have been found in its place.
  have isFirst : ∀ earlier ∈ before, earlier.chord ≠ binding.chord := by
    intro earlier isEarlier sameChord
    have goesOn := stepThrough?_eq_some.mpr
      ⟨fragment, rest, c, sameChord ▸ split, matched, rfl⟩
    rw [noneBefore earlier isEarlier] at goesOn
    contradiction
  exact ⟨binding, by simp [bindings], fragment, rest, c,
    KeyTable.get?_eq_of_first bindings isFirst, split, matched, leadsTo⟩

/--
In an unambiguous table, a press that matches the next fragment of a bound chord is
looked up as that fragment, and as the end of the chord if none follows.
-/
theorem lookUp_of_bound
    {dispatcher : Dispatcher}
    {table : KeyTable}
    (unambiguous : table.Unambiguous)
    {chord : Chord}
    {action : Action}
    (bound : table.get? chord = some action)
    {fragment : Fragment}
    {rest : List Fragment}
    (split : chord.fragments = dispatcher.held ++ fragment :: rest)
    {event : KeyEvent}
    {c : Char}
    (matched : fragment.match? event = some c) :
    dispatcher.lookUp event table =
      if rest.isEmpty then .leaf action fragment c else .deeper fragment c := by
  have member : ⟨chord, action⟩ ∈ table.bindings := KeyTable.mem_of_get?_eq_some bound
  have leads : (stepThrough? dispatcher.held event ⟨chord, action⟩).isSome := by
    rw [stepThrough?_eq_some.mpr ⟨fragment, rest, c, split, matched, rfl⟩]
    rfl
  obtain ⟨found, isFound⟩ := Option.isSome_iff_exists.mp
    (List.findSome?_isSome_iff.mpr ⟨_, member, leads⟩)
  obtain ⟨first, firstMember, other, more, d, firstBound, firstSplit, firstMatched, leadsTo⟩ :=
    exists_binding_of_findSome? isFound
  obtain ⟨rfl, rfl, sameChord | ⟨goesOn, firstGoesOn⟩⟩ :=
    unambiguous.same_next member firstMember split firstSplit matched firstMatched
  · have sameAction : first.action = action := by
      rw [← sameChord, bound] at firstBound
      exact (Option.some.inj firstBound).symm
    have sameRest : more = rest := by
      simpa [← sameChord, split] using firstSplit.symm
    rw [lookUp, isFound, leadsTo, sameAction, sameRest, Option.getD_some]
  · simp [lookUp, isFound, leadsTo, goesOn, firstGoesOn]

end Dispatcher

end ChordEditor
