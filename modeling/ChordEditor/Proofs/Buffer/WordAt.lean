import ChordEditor.Proofs.Buffer.Places

namespace ChordEditor.Buffer

/-!
# The word at a place

The word at a place is a span of word characters that no word character goes on, before
it or behind it.
-/

/-- No word character stands directly before or directly behind a span. -/
structure StandsAlone (text : List Char) (span : Span) : Prop where
  before : 0 < span.start → hasWordCharAt text (span.start - 1) = false
  behind : hasWordCharAt text span.stop = false

/-- A span of word characters that no word character goes on. -/
structure IsWord (text : List Char) (span : Span) : Prop where
  someChar : span.start < span.stop
  wordChars : ∀ place, span.start ≤ place → place < span.stop → hasWordCharAt text place = true
  alone : StandsAlone text span

/-- A scan goes on over what it takes. -/
theorem any_of_lt_length_takeWhile
    {takes : Char → Bool}
    {text : List Char}
    {index : Nat}
    (within : index < (text.takeWhile takes).length) :
    text[index]?.any takes = true := by
  have isPrefix : text.takeWhile takes <+: text := List.takeWhile_prefix takes
  have inText := Nat.lt_of_lt_of_le within isPrefix.length_le
  rw [List.getElem?_eq_getElem inText, Option.any_some, ← isPrefix.getElem within]
  exact List.all_eq_true.mp List.all_takeWhile _ (List.getElem_mem within)

/-- A scan stops before what it does not take. -/
theorem any_length_takeWhile
    (takes : Char → Bool)
    (text : List Char) :
    text[(text.takeWhile takes).length]?.any takes = false := by
  induction text with
  | nil =>
      rfl
  | cons c rest inductionHypothesis =>
      by_cases isTaken : takes c = true
      · rw [List.takeWhile_cons_of_pos isTaken]
        exact inductionHypothesis
      · rw [List.takeWhile_cons_of_neg isTaken]
        simpa using isTaken

variable {text : List Char} {anchor : Nat}

/-- The word at a place has a word character at its anchor. -/
theorem hasWordCharAt_anchor
    {place : Nat}
    (anchored : wordAnchor? text place = some anchor) :
    hasWordCharAt text anchor = true := by
  unfold wordAnchor? at anchored
  split at anchored
  · cases anchored
    assumption
  · split at anchored
    · rename_i before
      cases anchored
      exact before.2
    · contradiction

theorem lt_length_of_hasWordCharAt
    {place : Nat}
    (isWord : hasWordCharAt text place = true) :
    place < text.length := by
  apply Nat.lt_of_not_le
  intro behind
  rw [hasWordCharAt, List.getElem?_eq_none behind] at isWord
  contradiction

theorem hasWordCharAt_drop
    (text : List Char)
    (anchor index : Nat) :
    hasWordCharAt (text.drop anchor) index = hasWordCharAt text (anchor + index) := by
  rw [hasWordCharAt, List.getElem?_drop, hasWordCharAt]

/-- What a scan backward from an anchor looks at. -/
theorem hasWordCharAt_reverse_take
    (inText : anchor ≤ text.length)
    {place : Nat}
    (isBefore : place < anchor) :
    hasWordCharAt (text.take anchor).reverse (anchor - 1 - place) = hasWordCharAt text place := by
  have length : (text.take anchor).length = anchor := by
    rw [List.length_take, Nat.min_eq_left inText]
  have sameIndex : anchor - 1 - (anchor - 1 - place) = place := by
    omega
  rw [hasWordCharAt, List.getElem?_reverse (by omega), length, sameIndex,
    List.getElem?_take_of_lt isBefore, hasWordCharAt]

/-- The word at a place is a word. -/
theorem wordSpan_isWord
    {buffer : Buffer}
    {place : Nat}
    {span : Span}
    (found : buffer.wordSpan? place = some span) :
    IsWord buffer.text span := by
  unfold wordSpan? at found
  obtain ⟨anchor, anchored, rfl⟩ := Option.map_eq_some_iff.mp found
  have here := hasWordCharAt_anchor anchored
  have inText := Nat.le_of_lt (lt_length_of_hasWordCharAt here)
  have ahead (index : Nat) := hasWordCharAt_drop buffer.text anchor index
  have back {place : Nat} := @hasWordCharAt_reverse_take buffer.text anchor inText place
  have aheadTakes {index : Nat} :=
    @any_of_lt_length_takeWhile Text.isWordChar (buffer.text.drop anchor) index
  have aheadStops := any_length_takeWhile Text.isWordChar (buffer.text.drop anchor)
  have backTakes {index : Nat} :=
    @any_of_lt_length_takeWhile Text.isWordChar (buffer.text.take anchor).reverse index
  have backStops := any_length_takeWhile Text.isWordChar (buffer.text.take anchor).reverse
  generalize ((buffer.text.drop anchor).takeWhile Text.isWordChar).length = right at *
  generalize ((buffer.text.take anchor).reverse.takeWhile Text.isWordChar).length = left at *
  change hasWordCharAt (buffer.text.drop anchor) right = false at aheadStops
  change hasWordCharAt (buffer.text.take anchor).reverse left = false at backStops
  have someAhead : 0 < right := by
    apply Nat.pos_of_ne_zero
    rintro rfl
    rw [ahead, Nat.add_zero, here] at aheadStops
    contradiction
  refine ⟨?_, ?_, ?_, ?_⟩
  · dsimp only
    omega
  · intro place starts stops
    dsimp only at starts stops
    rcases Nat.lt_or_ge place anchor with isBefore | isBehind
    · rw [← back isBefore]
      exact backTakes (by omega)
    · obtain ⟨index, rfl⟩ := Nat.exists_eq_add_of_le isBehind
      rw [← ahead]
      exact aheadTakes (by omega)
  · dsimp only
    intro someBefore
    have isLeft : anchor - 1 - (anchor - left - 1) = left := by
      omega
    rw [← back (by omega), isLeft]
    exact backStops
  · rw [← ahead]
    exact aheadStops

/-- The word at a place reaches to the place, and over it if the place has a word character. -/
theorem wordSpan_bounds
    {buffer : Buffer}
    {place : Nat}
    {span : Span}
    (found : buffer.wordSpan? place = some span) :
    span.start ≤ place ∧
      place ≤ span.stop ∧ (place < span.stop ↔ hasWordCharAt buffer.text place = true) := by
  have isWord := wordSpan_isWord found
  have wordChars := isWord.wordChars place
  have behind := isWord.alone.behind
  unfold wordSpan? at found
  obtain ⟨anchor, anchored, isSpan⟩ := Option.map_eq_some_iff.mp found
  have starts : span.start ≤ anchor := by
    rw [← isSpan]
    exact Nat.sub_le _ _
  have stops : anchor ≤ span.stop := by
    rw [← isSpan]
    exact Nat.le_add_right _ _
  have goesOn : anchor ≠ span.stop := by
    intro same
    rw [← same, hasWordCharAt_anchor anchored] at behind
    contradiction
  unfold wordAnchor? at anchored
  split at anchored
  · rename_i here
    obtain rfl := Option.some.inj anchored
    exact ⟨starts, stops, fun _ => here, fun _ => Nat.lt_of_le_of_ne stops goesOn⟩
  · rename_i notHere
    split at anchored
    · obtain rfl := Option.some.inj anchored
      exact ⟨by omega, by omega, wordChars (by omega), fun here => absurd here notHere⟩
    · contradiction

/-- A word lies within the text. -/
theorem IsWord.inText
    {span : Span}
    (isWord : IsWord text span) :
    span.stop ≤ text.length := by
  have someChar := isWord.someChar
  have last := lt_length_of_hasWordCharAt (isWord.wordChars (span.stop - 1) (by omega) (by omega))
  omega

section Spelled

variable
  {buffer : Buffer}
  {span : Span}
  (isWord : IsWord buffer.text span)

include isWord

/-- The text of a word is as long as the word. -/
theorem IsWord.length_spanText : (buffer.spanText span).length = span.stop - span.start := by
  unfold spanText slice
  rw [List.length_drop, List.length_take, Nat.min_eq_left isWord.inText]

theorem IsWord.spanText_ne_nil : buffer.spanText span ≠ [] := by
  have someChar := isWord.someChar
  apply List.ne_nil_of_length_pos
  rw [isWord.length_spanText]
  omega

/-- The text of a word has word characters alone. -/
theorem IsWord.wordChar
    {c : Char}
    (isIn : c ∈ buffer.spanText span) :
    Text.isWordChar c = true := by
  obtain ⟨index, isHere⟩ := List.mem_iff_getElem?.mp isIn
  have within := (List.getElem?_eq_some_iff.mp isHere).1
  rw [isWord.length_spanText] at within
  have wordChar := isWord.wordChars (span.start + index) (by omega) (by omega)
  rw [spanText, slice, List.getElem?_drop, List.getElem?_take_of_lt (by omega)] at isHere
  rwa [hasWordCharAt, isHere, Option.any_some] at wordChar

end Spelled

end ChordEditor.Buffer
