import ChordEditor.Proofs.Buffer.Performing
import ChordEditor.Proofs.Text.Occurrences

namespace ChordEditor.Buffer

/-!
# Ranges in which changes are accepted

An insertion is accepted at every place of the text, a deletion or a replacement for
every ordered range of it.  What is accepted changes the length by what is put in and
taken out.
-/

variable {buffer changed : Buffer} {place start stop : Nat} {piece removed : List Char}

/-- Insertions are accepted at the places of the text. -/
theorem insert_accepted_iff :
    (∃ changed, buffer.insert place piece = .ok changed) ↔ place ≤ buffer.length := by
  rw [insert_eq]
  split
  · rename_i outOfRange
    constructor
    · rintro ⟨_, accepted⟩
      contradiction
    · intro inRange
      omega
  · rename_i inRange
    constructor
    · exact fun _ => Nat.le_of_not_lt inRange
    · intro _
      split <;> exact ⟨_, rfl⟩

/-- Deletions are accepted for the ranges of the text. -/
theorem delete_accepted_iff :
    (∃ result, buffer.delete start stop = .ok result) ↔
      start ≤ stop ∧ stop ≤ buffer.length := by
  rw [delete_eq]
  split
  · rename_i unordered
    constructor
    · rintro ⟨_, accepted⟩
      contradiction
    · intro inRange
      omega
  · rename_i ordered
    split
    · rename_i outOfRange
      constructor
      · rintro ⟨_, accepted⟩
        contradiction
      · intro inRange
        omega
    · rename_i inRange
      constructor
      · exact fun _ => ⟨Nat.le_of_not_lt ordered, Nat.le_of_not_lt inRange⟩
      · intro _
        split <;> exact ⟨_, rfl⟩

/-- An accepted insertion makes the text longer by its piece. -/
theorem length_of_insert
    (accepted : buffer.insert place piece = .ok changed) :
    changed.length = buffer.length + piece.length := by
  have inRange := insert_accepted_iff.mp ⟨changed, accepted⟩
  rw [insert_eq, if_neg (by omega)] at accepted
  split at accepted
  · rename_i nothing
    cases accepted
    rw [nothing]
    rfl
  · cases accepted
    show ((Edit.insert place piece).applyTo buffer.text).length = _
    unfold length at inRange
    unfold length
    simp only [Edit.applyTo, List.length_append, List.length_take, List.length_drop]
    omega

/-- An accepted insertion puts its piece into the text. -/
theorem text_of_insert
    (accepted : buffer.insert place piece = .ok changed) :
    changed.text = buffer.text.take place ++ piece ++ buffer.text.drop place := by
  have inRange := insert_accepted_iff.mp ⟨changed, accepted⟩
  rw [insert_eq, if_neg (by omega)] at accepted
  split at accepted
  · rename_i nothing
    cases accepted
    rw [nothing, List.append_nil, List.take_append_drop]
  · cases accepted
    rfl

/-- An accepted deletion takes its range out of the text. -/
theorem text_of_delete
    (accepted : buffer.delete start stop = .ok (removed, changed)) :
    changed.text = buffer.text.take start ++ buffer.text.drop stop := by
  obtain ⟨ordered, inRange⟩ := delete_accepted_iff.mp ⟨_, accepted⟩
  rw [delete_eq, if_neg (by omega), if_neg (by omega)] at accepted
  split at accepted
  · rename_i nothing
    cases accepted
    rw [nothing, List.take_append_drop]
  · cases accepted
    have width : start + (buffer.slice start stop).length = stop := by
      unfold length at inRange
      simp only [slice, List.length_drop, List.length_take]
      omega
    show (Edit.delete start (buffer.slice start stop)).applyTo buffer.text = _
    rw [Edit.applyTo, width]

/-- An accepted deletion gives what it takes out of the text. -/
theorem removed_of_delete
    (accepted : buffer.delete start stop = .ok (removed, changed)) :
    removed = buffer.slice start stop := by
  obtain ⟨ordered, inRange⟩ := delete_accepted_iff.mp ⟨_, accepted⟩
  rw [delete_eq, if_neg (by omega), if_neg (by omega)] at accepted
  split at accepted
  · rename_i nothing
    cases accepted
    rw [nothing, slice, List.drop_eq_nil_of_le (List.length_take_le _ _)]
  · cases accepted
    rfl

/-- A text is what is before an ordered range, the range, and what is behind it. -/
theorem text_around_slice
    (buffer : Buffer)
    (ordered : start ≤ stop) :
    buffer.text.take start ++ buffer.slice start stop ++ buffer.text.drop stop =
      buffer.text := by
  have before : (buffer.text.take stop).take start = buffer.text.take start := by
    rw [List.take_take, Nat.min_eq_left ordered]
  rw [slice, ← before, List.take_append_drop, List.take_append_drop]

/-- An accepted deletion makes the text shorter by its range. -/
theorem length_of_delete
    (accepted : buffer.delete start stop = .ok (removed, changed)) :
    changed.length + (stop - start) = buffer.length := by
  obtain ⟨ordered, inRange⟩ := delete_accepted_iff.mp ⟨_, accepted⟩
  unfold length at inRange ⊢
  rw [text_of_delete accepted, List.length_append, List.length_take, List.length_drop]
  omega

/-- Replacements are accepted for the ranges of the text. -/
theorem replace_accepted_iff :
    (∃ result, buffer.replace start stop piece = .ok result) ↔
      start ≤ stop ∧ stop ≤ buffer.length := by
  constructor
  · rintro ⟨⟨removed, changed⟩, accepted⟩
    obtain ⟨shortened, deleted, _⟩ := replace_eq_ok accepted
    exact delete_accepted_iff.mp ⟨_, deleted⟩
  · intro inRange
    obtain ⟨⟨removed, shortened⟩, deleted⟩ := delete_accepted_iff.mpr inRange
    have shorter := length_of_delete deleted
    have accepted : ∃ changed, shortened.insert start piece = .ok changed :=
      insert_accepted_iff.mpr (by omega)
    obtain ⟨changed, inserted⟩ := accepted
    refine ⟨(removed, changed), ?_⟩
    simp only [replace, deleted, inserted, bind, Except.bind, pure, Except.pure]

/-- An accepted replacement changes the length by its range and its piece. -/
theorem length_of_replace
    (accepted : buffer.replace start stop piece = .ok (removed, changed)) :
    changed.length + (stop - start) = buffer.length + piece.length := by
  obtain ⟨shortened, deleted, inserted⟩ := replace_eq_ok accepted
  have shorter := length_of_delete deleted
  have longer := length_of_insert inserted
  omega

/-- An accepted replacement puts its piece in place of its range. -/
theorem text_of_replace
    (accepted : buffer.replace start stop piece = .ok (removed, changed)) :
    changed.text = buffer.text.take start ++ piece ++ buffer.text.drop stop := by
  obtain ⟨ordered, inRange⟩ := replace_accepted_iff.mp ⟨_, accepted⟩
  obtain ⟨shortened, deleted, inserted⟩ := replace_eq_ok accepted
  have before : (buffer.text.take start).length = start := by
    have inText : stop ≤ buffer.text.length := inRange
    rw [List.length_take, Nat.min_eq_left (Nat.le_trans ordered inText)]
  rw [text_of_insert inserted, text_of_delete deleted, List.take_left' before,
    List.drop_left' before]

/-- A part of the text that is replaced gives way to the new text. -/
theorem exists_replaced_part
    {before part after : List Char}
    (shape : buffer.text = before ++ part ++ after)
    (piece : List Char) :
    ∃ changed,
      buffer.replace before.length (before.length + part.length) piece = .ok (part, changed) ∧
        changed.text = before ++ piece ++ after := by
  have inText : before.length + part.length ≤ buffer.length := by
    rw [length, shape, List.length_append, List.length_append]
    exact Nat.le_add_right _ _
  obtain ⟨⟨removed, changed⟩, replaced⟩ :=
    replace_accepted_iff.mpr ⟨Nat.le_add_right before.length part.length, inText⟩
  obtain rfl : removed = part := by
    obtain ⟨shortened, deleted, _⟩ := replace_eq_ok replaced
    rw [removed_of_delete deleted, slice, shape, ← List.length_append, List.take_left,
      List.drop_left]
  refine ⟨changed, replaced, ?_⟩
  rw [text_of_replace replaced, shape, ← List.length_append, List.drop_left,
    List.append_assoc before, List.take_left]

/-- Replacing pieces that do not overlap, from the last one to the first one, is accepted. -/
theorem replaceEach_accepted
    {length : Nat}
    {replacement : List Char}
    {places : List Nat}
    (apart : places.Pairwise fun later earlier => earlier + length ≤ later)
    (inRange : ∀ place ∈ places, place + length ≤ buffer.length) :
    ∃ changed, buffer.replaceEach length replacement places = .ok changed := by
  induction places generalizing buffer with
  | nil =>
      exact ⟨buffer, rfl⟩
  | cons place places inductionHypothesis =>
      obtain ⟨before, restApart⟩ := List.pairwise_cons.mp apart
      have placeInRange := inRange place List.mem_cons_self
      have accepted :
          ∃ result, buffer.replace place (place + length) replacement = .ok result :=
        replace_accepted_iff.mpr ⟨Nat.le_add_right _ _, placeInRange⟩
      obtain ⟨⟨removed, replaced⟩, accepted⟩ := accepted
      have asLong := length_of_replace accepted
      have restInRange : ∀ earlier ∈ places, earlier + length ≤ replaced.length := by
        intro earlier isEarlier
        have isBefore := before earlier isEarlier
        omega
      obtain ⟨changed, others⟩ := inductionHypothesis restApart restInRange
      refine ⟨changed, ?_⟩
      simp only [replaceEach, accepted, bind, Except.bind]
      exact others

/-- Replacing every occurrence of a text is accepted. -/
theorem replaceAll_accepted
    (buffer : Buffer)
    (needle replacement : List Char) :
    ∃ result, buffer.replaceAll needle replacement = .ok result := by
  unfold replaceAll
  split
  · exact ⟨_, rfl⟩
  · have accepted :
        ∃ changed,
          buffer.replaceEach needle.length replacement
            (Text.occurrences needle buffer.text).reverse = .ok changed := by
      apply replaceEach_accepted
      · rw [List.pairwise_reverse]
        exact Text.occurrences_apart needle buffer.text
      · intro place isPlace
        exact Text.occurrences_bounds (List.mem_reverse.mp isPlace)
    obtain ⟨changed, replaced⟩ := accepted
    refine ⟨((Text.occurrences needle buffer.text).length, changed), ?_⟩
    simp only [replaced, bind, Except.bind]
    rfl

end ChordEditor.Buffer
