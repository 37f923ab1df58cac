import ChordEditor.Proofs.Buffer.Ranges
import ChordEditor.Proofs.Text.Replacing

namespace ChordEditor.Buffer

/-!
# Replacing a needle in a buffer

The occurrences are found before the first change and then replaced from the last one to
the first one, so that the places of those that are left stay where they were found.
What comes out is the text with the needle replaced from left to right.
-/

variable {buffer : Buffer}

/-- Places are replaced one after the other. -/
theorem replaceEach_append
    {between : Buffer}
    {length : Nat}
    {replacement : List Char}
    {places : List Nat}
    (accepted : buffer.replaceEach length replacement places = .ok between)
    (others : List Nat) :
    buffer.replaceEach length replacement (places ++ others) =
      between.replaceEach length replacement others := by
  induction places generalizing buffer with
  | nil =>
      cases accepted
      rfl
  | cons place places inductionHypothesis =>
      rw [List.cons_append, replaceEach]
      rw [replaceEach] at accepted
      cases replaced : buffer.replace place (place + length) replacement with
      | error error =>
          rw [replaced] at accepted
          contradiction
      | ok result =>
          rw [replaced] at accepted
          exact inductionHypothesis accepted

/-- A single place is replaced. -/
theorem replaceEach_singleton
    {before needle after : List Char}
    (shape : buffer.text = before ++ needle ++ after)
    (replacement : List Char) :
    ∃ changed,
      buffer.replaceEach needle.length replacement [before.length] = .ok changed ∧
        changed.text = before ++ replacement ++ after := by
  obtain ⟨changed, replaced, text⟩ := exists_replaced_part shape replacement
  refine ⟨changed, ?_, text⟩
  rw [replaceEach, replaced]
  rfl

/-- The places of a needle in a part of the text are replaced, and nothing else is. -/
theorem replaceEach_replaced
    {everywhere : Bool}
    {needle replacement part result kept behind : List Char}
    {count : Nat}
    (replaced : Text.Replaced everywhere needle replacement part result count)
    (someNeedle : needle ≠ [])
    (shape : buffer.text = kept ++ part ++ behind) :
    ∃ changed,
      buffer.replaceEach needle.length replacement
          ((Text.replacedPlaces everywhere needle part).reverse.map (kept.length + ·)) =
          .ok changed ∧
        changed.text = kept ++ result ++ behind := by
  induction replaced generalizing kept with
  | nowhere absent =>
      refine ⟨buffer, ?_, shape⟩
      rw [Text.replacedPlaces_of_absent absent]
      rfl
  | @once part before after cut onlyOnce =>
      subst onlyOnce
      have cutUp : buffer.text = (kept ++ before) ++ needle ++ (after ++ behind) := by
        simp [shape, cut.text_eq]
      obtain ⟨changed, accepted, text⟩ := replaceEach_singleton cutUp replacement
      refine ⟨changed, ?_, ?_⟩
      · rw [Text.replacedPlaces_once someNeedle cut]
        rw [List.length_append] at accepted
        exact accepted
      · simp [text]
  | @further part before after others count cut goesOn _ inductionHypothesis =>
      -- What is behind the first place is replaced before it, with all up to there kept.
      subst goesOn
      have cutUp : buffer.text = (kept ++ before ++ needle) ++ after ++ behind := by
        simp [shape, cut.text_eq]
      obtain ⟨between, othersAccepted, betweenText⟩ := inductionHypothesis cutUp
      have firstCut : between.text = (kept ++ before) ++ needle ++ (others ++ behind) := by
        simp [betweenText]
      obtain ⟨changed, accepted, text⟩ := replaceEach_singleton firstCut replacement
      refine ⟨changed, ?_, ?_⟩
      · have places :
            (Text.replacedPlaces true needle part).reverse.map (kept.length + ·) =
              (Text.replacedPlaces true needle after).reverse.map
                  ((kept ++ before ++ needle).length + ·) ++
                [(kept ++ before).length] := by
          rw [Text.replacedPlaces_further someNeedle cut]
          simp [List.map_reverse, Nat.add_assoc]
        rw [places, replaceEach_append othersAccepted]
        exact accepted
      · simp [text]

/-- Replacing all occurrences leaves the text in which they are replaced, and counts them. -/
theorem replaceAll_replaced
    {needle replacement result : List Char}
    {count : Nat}
    (replaced : Text.Replaced true needle replacement buffer.text result count)
    (someNeedle : needle ≠ []) :
    ∃ changed,
      buffer.replaceAll needle replacement = .ok (count, changed) ∧ changed.text = result := by
  have shape : buffer.text = [] ++ buffer.text ++ [] := by
    simp
  have places :
      (Text.replacedPlaces true needle buffer.text).reverse.map (([] : List Char).length + ·) =
        (Text.occurrences needle buffer.text).reverse := by
    simp [Text.replacedPlaces]
  have counted := replaced.count_eq someNeedle
  obtain ⟨changed, accepted, text⟩ := replaceEach_replaced replaced someNeedle shape
  rw [List.nil_append, List.append_nil] at text
  rw [places] at accepted
  refine ⟨changed, ?_, text⟩
  unfold replaceAll
  rw [if_neg (by simpa using someNeedle)]
  dsimp only
  rw [accepted, counted]
  rfl

/--
Replacing all occurrences is never refused.  It leaves the one text in which the needle is
replaced from left to right everywhere, and counts how often.
-/
theorem replaceAll_replaces_each_occurrence
    (buffer : Buffer)
    {needle : List Char}
    (someNeedle : needle ≠ [])
    (replacement : List Char) :
    ∃ count changed,
      buffer.replaceAll needle replacement = .ok (count, changed) ∧
        ∀ text number,
          Text.Replaced true needle replacement buffer.text text number ↔
            text = changed.text ∧ number = count := by
  obtain ⟨result, count, replaced⟩ :=
    Text.exists_replaced someNeedle true replacement buffer.text
  obtain ⟨changed, accepted, changedText⟩ := replaceAll_replaced replaced someNeedle
  refine ⟨count, changed, accepted, ?_⟩
  rw [changedText]
  intro text number
  constructor
  · exact replaced.unique
  · rintro ⟨rfl, rfl⟩
    exact replaced

/-- Occurrences that overlap, or that the replacement brings in, are not replaced. -/
theorem replaceAll_replaces_overlapping_once :
    let buffer := Buffer.ofText "éaéaéaé".toList
    (∃ count changed,
        buffer.replaceAll "éaé".toList "\néaéa".toList = .ok (count, changed) ∧
          ∀ text number,
            Text.Replaced true "éaé".toList "\néaéa".toList buffer.text text number ↔
              text = changed.text ∧ number = count) ∧
      (buffer.replaceAll "éaé".toList "\néaéa".toList).map
          (fun result => (result.1, result.2.text)) =
        .ok (2, "\néaéaa\néaéa".toList) :=
  ⟨replaceAll_replaces_each_occurrence _ (by decide) _, by rfl⟩

end ChordEditor.Buffer
