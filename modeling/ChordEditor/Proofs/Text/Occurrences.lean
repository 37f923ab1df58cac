import ChordEditor.Text.Occurrences

namespace ChordEditor.Text

/-!
# Where occurrences are

Occurrences lie within the text and do not overlap, whatever the test that they pass,
as long as it only holds where the text goes on for their width.  All of them pass the
test, and a place that passes it lies in one of them at least: the search misses none.

The first occurrence of a needle without newlines in a text of several lines is that in
the first line, if there is one, and otherwise that in the lines behind it
(`indexOf?_append_newline`).
-/

variable {holds : Option Char → List Char → Bool} {width : Nat}

/-- Occurrences lie behind what is skipped, and within the text. -/
theorem occurrencesFrom_bounds
    (fitsAhead : ∀ previous ahead, holds previous ahead = true → width ≤ ahead.length)
    {previous : Option Char}
    {text : List Char}
    {skip place found : Nat}
    (isFound : found ∈ occurrencesFrom holds width previous text skip place) :
    place + skip ≤ found ∧ found + width ≤ place + text.length := by
  induction text generalizing previous skip place with
  | nil =>
      cases skip <;> simp [occurrencesFrom] at isFound
  | cons c rest inductionHypothesis =>
      rw [List.length_cons]
      cases skip with
      | succ skip =>
          have bounds := inductionHypothesis isFound
          omega
      | zero =>
          unfold occurrencesFrom at isFound
          split at isFound
          · rename_i occurs
            have fits := fitsAhead _ _ occurs
            rw [List.length_cons] at fits
            rcases List.mem_cons.mp isFound with here | later
            · omega
            · have bounds := inductionHypothesis later
              omega
          · have bounds := inductionHypothesis isFound
            omega

/-- Each occurrence ends before the next one begins. -/
theorem occurrencesFrom_apart
    (fitsAhead : ∀ previous ahead, holds previous ahead = true → width ≤ ahead.length)
    (previous : Option Char)
    (text : List Char)
    (skip place : Nat) :
    (occurrencesFrom holds width previous text skip place).Pairwise
      fun earlier later => earlier + width ≤ later := by
  induction text generalizing previous skip place with
  | nil =>
      cases skip <;> exact .nil
  | cons c rest inductionHypothesis =>
      cases skip with
      | succ skip =>
          exact inductionHypothesis _ _ _
      | zero =>
          unfold occurrencesFrom
          split
          · apply List.Pairwise.cons ?_ (inductionHypothesis _ _ _)
            intro later isFound
            have bounds := occurrencesFrom_bounds fitsAhead isFound
            omega
          · exact inductionHypothesis _ _ _

/-- What is found passes the test at its place. -/
theorem occurrencesFrom_holds
    {before rest : List Char}
    {skip found : Nat}
    (isFound :
      found ∈ occurrencesFrom holds width before.getLast? rest skip before.length) :
    ∃ passed ahead,
      before ++ rest = passed ++ ahead ∧
        passed.length = found ∧ holds passed.getLast? ahead = true := by
  induction rest generalizing before skip with
  | nil =>
      cases skip <;> simp [occurrencesFrom] at isFound
  | cons c rest inductionHypothesis =>
      have further
          {skip : Nat}
          (later :
            found ∈ occurrencesFrom holds width (some c) rest skip (before.length + 1)) :
          ∃ passed ahead,
            before ++ c :: rest = passed ++ ahead ∧
              passed.length = found ∧ holds passed.getLast? ahead = true := by
        have found := @inductionHypothesis (before ++ [c]) skip (by simpa using later)
        rw [List.append_assoc] at found
        exact found
      cases skip with
      | succ skip =>
          exact further isFound
      | zero =>
          unfold occurrencesFrom at isFound
          split at isFound
          · rename_i occurs
            rcases List.mem_cons.mp isFound with here | later
            · exact ⟨before, c :: rest, rfl, here.symm, occurs⟩
            · exact further later
          · exact further isFound

/-- A place that passes the test is found, or it lies within an occurrence found before. -/
theorem occurrencesFrom_covers
    (someWidth : 0 < width)
    {before between ahead : List Char}
    {skip : Nat}
    (notSkipped : skip ≤ between.length)
    (someAhead : ahead ≠ [])
    (occurs : holds (before ++ between).getLast? ahead = true) :
    ∃ found ∈ occurrencesFrom holds width before.getLast? (between ++ ahead) skip
        before.length,
      found ≤ before.length + between.length ∧
        before.length + between.length < found + width := by
  induction between generalizing before skip with
  | nil =>
      obtain rfl := Nat.le_zero.mp notSkipped
      rw [List.append_nil] at occurs
      cases ahead with
      | nil =>
          contradiction
      | cons c rest =>
          refine ⟨before.length, ?_, Nat.le_refl _, Nat.lt_add_of_pos_right someWidth⟩
          rw [List.nil_append, occurrencesFrom, if_pos occurs]
          exact List.mem_cons_self
  | cons c between inductionHypothesis =>
      rw [List.length_cons] at notSkipped ⊢
      have further
          {skip : Nat}
          (notSkipped : skip ≤ between.length) :
          ∃ found ∈ occurrencesFrom holds width (some c) (between ++ ahead) skip
              (before.length + 1),
            found ≤ before.length + (between.length + 1) ∧
              before.length + (between.length + 1) < found + width := by
        have found := @inductionHypothesis (before ++ [c]) skip notSkipped (by simpa using occurs)
        rw [List.getLast?_concat, List.length_append, List.length_singleton] at found
        rw [Nat.add_comm between.length 1, ← Nat.add_assoc]
        exact found
      cases skip with
      | succ skip =>
          exact further (Nat.le_of_succ_le_succ notSkipped)
      | zero =>
          rw [List.cons_append, occurrencesFrom]
          by_cases here : holds before.getLast? (c :: (between ++ ahead)) = true
          · rw [if_pos here]
            by_cases within : between.length + 1 < width
            · exact ⟨before.length, List.mem_cons_self, by omega, by omega⟩
            · obtain ⟨found, isFound, bounds⟩ := @further (width - 1) (by omega)
              exact ⟨found, List.mem_cons_of_mem _ isFound, bounds⟩
          · rw [if_neg here]
            exact further (Nat.zero_le _)

/-- Where a needle begins the text goes on for its length. -/
theorem length_le_of_beginsWith
    {needle : List Char}
    (previous : Option Char)
    (ahead : List Char)
    (begins : beginsWith needle previous ahead = true) :
    needle.length ≤ ahead.length :=
  (List.isPrefixOf_iff_prefix.mp begins).length_le

/-- An occurrence of a needle lies within the text. -/
theorem occurrences_bounds
    {needle text : List Char}
    {found : Nat}
    (isFound : found ∈ occurrences needle text) :
    found + needle.length ≤ text.length := by
  have bounds := occurrencesFrom_bounds length_le_of_beginsWith isFound
  omega

/-- Occurrences of a needle do not overlap. -/
theorem occurrences_apart (needle text : List Char) :
    (occurrences needle text).Pairwise
      fun earlier later => earlier + needle.length ≤ later :=
  occurrencesFrom_apart length_le_of_beginsWith none text 0 0

variable {needle : List Char}

/-- The first occurrence lies within the text. -/
theorem indexOf?_bound
    {text : List Char}
    {place : Nat}
    (isFound : indexOf? needle text = some place) :
    place + needle.length ≤ text.length := by
  induction text generalizing place with
  | nil =>
      simp only [indexOf?, List.isEmpty_iff, Option.ite_none_right_eq_some,
        Option.some.injEq] at isFound
      simp [isFound.1, isFound.2.symm]
  | cons c rest inductionHypothesis =>
      unfold indexOf? at isFound
      split at isFound
      · rename_i begins
        cases isFound
        rw [Nat.zero_add]
        exact (List.isPrefixOf_iff_prefix.mp begins).length_le
      · obtain ⟨later, found, rfl⟩ := Option.map_eq_some_iff.mp isFound
        have fits := inductionHypothesis found
        rw [List.length_cons]
        omega

/-- The first occurrence is at the start exactly if the text begins with the needle. -/
theorem indexOf?_eq_zero_iff {text : List Char} :
    indexOf? needle text = some 0 ↔ needle.isPrefixOf text = true := by
  cases text with
  | nil =>
      cases needle <;> simp [indexOf?]
  | cons c rest =>
      by_cases begins : needle.isPrefixOf (c :: rest) <;> simp [indexOf?, begins]

/-- A needle that is not empty does not occur in the empty text. -/
@[simp]
theorem indexOf?_nil
    (notEmpty : needle ≠ []) :
    indexOf? needle [] = none := by
  simp [indexOf?, notEmpty]

/-- Nothing is found exactly if the needle occurs nowhere. -/
theorem indexOf?_eq_none_iff {text : List Char} :
    indexOf? needle text = none ↔ ¬ needle <:+: text := by
  induction text with
  | nil =>
      cases needle <;> simp [indexOf?]
  | cons c rest inductionHypothesis =>
      rw [indexOf?, List.infix_cons_iff, ← List.isPrefixOf_iff_prefix, not_or,
        ← inductionHypothesis]
      split
      · rename_i begins
        simp [begins]
      · rename_i beginsNot
        simp [beginsNot]

/-- Whether a line begins with a needle does not depend on the lines behind it. -/
theorem isPrefixOf_append_newline
    (noNewline : '\n' ∉ needle)
    (line rest : List Char) :
    needle.isPrefixOf (line ++ '\n' :: rest) = needle.isPrefixOf line := by
  induction needle generalizing line with
  | nil =>
      rfl
  | cons c needle inductionHypothesis =>
      cases line with
      | nil =>
          simp [List.isPrefixOf, (List.ne_of_not_mem_cons noNewline).symm]
      | cons d line =>
          simp [List.isPrefixOf, inductionHypothesis (List.not_mem_of_not_mem_cons noNewline)]

/-- The first occurrence is that in the first line, or else that behind it. -/
theorem indexOf?_append_newline
    (notEmpty : needle ≠ [])
    (noNewline : '\n' ∉ needle)
    (line rest : List Char) :
    indexOf? needle (line ++ '\n' :: rest) =
      (indexOf? needle line).or
        ((indexOf? needle rest).map (· + (line.length + 1))) := by
  induction line with
  | nil =>
      have nothingHere : needle.isPrefixOf ('\n' :: rest) = false := by
        rw [← List.nil_append ('\n' :: rest), isPrefixOf_append_newline noNewline,
          Bool.eq_false_iff]
        intro begins
        exact notEmpty (List.prefix_nil.mp (List.isPrefixOf_iff_prefix.mp begins))
      rw [indexOf?_nil notEmpty, Option.none_or, List.nil_append, indexOf?, nothingHere]
      rfl
  | cons c line inductionHypothesis =>
      rw [List.cons_append, indexOf?, indexOf?, inductionHypothesis, ← List.cons_append,
        isPrefixOf_append_newline noNewline]
      split
      · rfl
      · rw [Option.map_or, Option.map_map]
        rfl

end ChordEditor.Text
