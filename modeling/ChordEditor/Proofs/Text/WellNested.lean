import ChordEditor.Text.Lines

namespace ChordEditor.Text

/-!
# Texts with nested delimiters

A text is well nested in some pairs of delimiters if each of them that occurs has its
partner, and partners do not cross.  Read from behind, with the pairs turned round, such a
text is well nested too (`WellNested.reverse`).  A character in it is a delimiter or has
delimiters around it, or what comes before it is well nested (`WellNested.around`).
-/

/-- Whether a character is no delimiter of some pairs. -/
def IsPlain (pairs : List (Char × Char)) (c : Char) : Prop :=
  ∀ pair ∈ pairs, c ≠ pair.1 ∧ c ≠ pair.2

instance (pairs : List (Char × Char)) (c : Char) : Decidable (IsPlain pairs c) :=
  inferInstanceAs (Decidable (∀ pair ∈ pairs, c ≠ pair.1 ∧ c ≠ pair.2))

/-- A text in which every delimiter has its partner, and pairs lie in each other or apart. -/
inductive WellNested (pairs : List (Char × Char)) : List Char → Prop where
  | nil : WellNested pairs []
  | plain
      {c : Char}
      {rest : List Char}
      (isPlain : IsPlain pairs c)
      (nested : WellNested pairs rest) :
      WellNested pairs (c :: rest)
  | enclosed
      {opening closing : Char}
      {inside rest : List Char}
      (isPair : (opening, closing) ∈ pairs)
      (inner : WellNested pairs inside)
      (outer : WellNested pairs rest) :
      WellNested pairs (opening :: (inside ++ closing :: rest))

/--
A text that closes delimiters opened before it: each closing one, the innermost first,
stands behind a well nested text, and such a text is at the end.
-/
inductive ClosesAll (pairs : List (Char × Char)) : List Char → List Char → Prop where
  | done
      {text : List Char}
      (nested : WellNested pairs text) :
      ClosesAll pairs [] text
  | closes
      {closing : Char}
      {outer text rest : List Char}
      (nested : WellNested pairs text)
      (later : ClosesAll pairs outer rest) :
      ClosesAll pairs (closing :: outer) (text ++ closing :: rest)

variable
  {pairs : List (Char × Char)}
  {text first second : List Char}

namespace WellNested

/-- A text with no delimiters is well nested. -/
theorem of_plain (allPlain : ∀ c ∈ text, IsPlain pairs c) : WellNested pairs text := by
  induction text with
  | nil =>
      exact .nil
  | cons c rest inductionHypothesis =>
      obtain ⟨isPlain, restPlain⟩ := List.forall_mem_cons.mp allPlain
      exact .plain isPlain (inductionHypothesis restPlain)

theorem append
    (firstNested : WellNested pairs first)
    (secondNested : WellNested pairs second) :
    WellNested pairs (first ++ second) := by
  induction firstNested with
  | nil =>
      exact secondNested
  | plain isPlain _ inductionHypothesis =>
      exact .plain isPlain inductionHypothesis
  | enclosed isPair inner _ _ inductionHypothesis =>
      rw [List.cons_append, List.append_assoc, List.cons_append]
      exact .enclosed isPair inner inductionHypothesis

/-- A single pair around a well nested text. -/
theorem wrapped
    {opening closing : Char}
    (isPair : (opening, closing) ∈ pairs)
    (nested : WellNested pairs text) :
    WellNested pairs (opening :: (text ++ [closing])) :=
  .enclosed isPair nested .nil

/-- From behind every pair is turned round. -/
theorem reverse (nested : WellNested pairs text) :
    WellNested (pairs.map Prod.swap) text.reverse := by
  induction nested with
  | nil =>
      exact .nil
  | @plain c rest isPlain _ inductionHypothesis =>
      rw [List.reverse_cons]
      refine inductionHypothesis.append (.plain ?_ .nil)
      intro pair isPair
      obtain ⟨original, isOriginal, rfl⟩ := List.mem_map.mp isPair
      exact (isPlain original isOriginal).symm
  | @enclosed opening closing inside rest isPair _ _ innerHypothesis outerHypothesis =>
      have turned :
          (opening :: (inside ++ closing :: rest)).reverse =
            rest.reverse ++ closing :: (inside.reverse ++ [opening]) := by
        simp
      rw [turned]
      exact
        outerHypothesis.append
          (wrapped (List.mem_map.mpr ⟨_, isPair, rfl⟩) innerHypothesis)

/--
A character of a well nested text is one of a pair or has a pair around it, or it is plain
and what comes before it is well nested.
-/
theorem around
    (nested : WellNested pairs text)
    {before after : List Char}
    {c : Char}
    (cut : text = before ++ c :: after) :
    (∃ opening closing earlier inside later,
        (opening, closing) ∈ pairs ∧
          text = earlier ++ opening :: (inside ++ closing :: later) ∧
            WellNested pairs inside ∧
              earlier.length ≤ before.length ∧
                before.length ≤ earlier.length + 1 + inside.length) ∨
      IsPlain pairs c ∧ WellNested pairs before := by
  induction nested generalizing before with
  | nil =>
      simp at cut
  | @plain other rest isPlain _ inductionHypothesis =>
      cases before with
      | nil =>
          obtain ⟨rfl, _⟩ := List.cons.inj cut
          exact .inr ⟨isPlain, .nil⟩
      | cons _ before =>
          obtain ⟨rfl, rfl⟩ := List.cons.inj cut
          rcases inductionHypothesis rfl with
            ⟨opening, closing, earlier, inside, later, isPair, shape, inner, starts, stops⟩ |
              ⟨cPlain, beforeNested⟩
          · refine
              .inl ⟨opening, closing, other :: earlier, inside, later, isPair, ?_, inner, ?_, ?_⟩
            · rw [shape]
              rfl
            · exact Nat.succ_le_succ starts
            · simp only [List.length_cons]
              omega
          · exact .inr ⟨cPlain, .plain isPlain beforeNested⟩
  | @enclosed opening closing inside rest isPair inner _ _ inductionHypothesis =>
      by_cases within : before.length ≤ inside.length + 1
      · refine .inl ⟨opening, closing, [], inside, rest, isPair, rfl, inner, Nat.zero_le _, ?_⟩
        rw [List.length_nil]
        omega
      · -- The character lies behind the first pair.
        have whole : opening :: (inside ++ closing :: rest) =
            (opening :: (inside ++ [closing])) ++ rest := by
          simp
        have isFirst : opening :: (inside ++ [closing]) <+: before := by
          apply List.prefix_of_prefix_length_le (List.prefix_append _ rest)
          · rw [← whole, cut]
            exact List.prefix_append before _
          · simp only [List.length_cons, List.length_append, List.length_nil]
            omega
        obtain ⟨between, rfl⟩ := isFirst
        rw [whole, List.append_assoc] at cut
        rcases inductionHypothesis (List.append_cancel_left cut) with
          ⟨opening', closing', earlier, inside', later, isPair', shape, inner', starts, stops⟩ |
            ⟨cPlain, beforeNested⟩
        · refine
            .inl
              ⟨opening', closing', (opening :: (inside ++ [closing])) ++ earlier, inside',
                later, isPair', ?_, inner', ?_, ?_⟩
          · rw [whole, shape, List.append_assoc]
          · rw [List.length_append, List.length_append]
            omega
          · rw [List.length_append, List.length_append]
            omega
        · exact .inr ⟨cPlain, (wrapped isPair inner).append beforeNested⟩

end WellNested

namespace ClosesAll

variable {outer : List Char}

/-- A well nested text may come first. -/
theorem prepend
    (nested : WellNested pairs first)
    (closesAll : ClosesAll pairs outer second) :
    ClosesAll pairs outer (first ++ second) := by
  cases closesAll with
  | done later => exact .done (nested.append later)
  | closes between later =>
      rw [← List.append_assoc]
      exact .closes (nested.append between) later

/-- A delimiter that is opened is closed first. -/
theorem opened
    {opening closing : Char}
    (isPair : (opening, closing) ∈ pairs)
    (closesAll : ClosesAll pairs (closing :: outer) text) :
    ClosesAll pairs outer (opening :: text) := by
  cases closesAll with
  | @closes _ _ inside rest nested later =>
      have whole : opening :: (inside ++ closing :: rest) =
          (opening :: (inside ++ [closing])) ++ rest := by
        simp
      rw [whole]
      exact later.prepend (.wrapped isPair nested)

end ClosesAll

end ChordEditor.Text
