import ChordEditor.Proofs.Pattern.Matches

namespace ChordEditor

/-!
# Whole words as patterns

A literal matches where its text stands, and a choice in the ways of its alternatives.  A
word between two word boundaries is a run of word characters that is part of no longer one.
As there is only one run at a place, a choice of words has one way to match there at most,
whatever their order is.
-/

/-- Word characters that no other word character goes on. -/
structure Text.IsWordRun (before run after : List Char) : Prop where
  someChar : run ≠ []
  wordChars : ∀ c ∈ run, isPatternWordChar c = true
  apartBefore : before.getLast?.any isPatternWordChar = false
  apartBehind : after.head?.any isPatternWordChar = false

namespace Text.IsWordRun

variable {before run after : List Char}

theorem head (isRun : IsWordRun before run after) :
    run.head?.any isPatternWordChar = true := by
  rw [List.head?_eq_some_head isRun.someChar]
  exact isRun.wordChars _ (List.head_mem _)

theorem last (isRun : IsWordRun before run after) :
    run.getLast?.any isPatternWordChar = true := by
  rw [List.getLast?_eq_some_getLast isRun.someChar]
  exact isRun.wordChars _ (List.getLast_mem _)

theorem run_eq_takeWhile (isRun : IsWordRun before run after) :
    (run ++ after).takeWhile isPatternWordChar = run := by
  have nothingBehind : after.takeWhile isPatternWordChar = [] := by
    cases after with
    | nil =>
        rfl
    | cons c after =>
        exact List.takeWhile_cons_of_neg (Bool.eq_false_iff.mp isRun.apartBehind)
  rw [List.takeWhile_append_of_pos isRun.wordChars, nothingBehind, List.append_nil]

/-- At a place there is one run at most. -/
theorem unique
    {others rest : List Char}
    (isRun : IsWordRun before run after)
    (otherIsRun : IsWordRun before others rest)
    (sameText : run ++ after = others ++ rest) :
    run = others := by
  rw [← isRun.run_eq_takeWhile, sameText, otherIsRun.run_eq_takeWhile]

/-- A run that reaches over the start of another one starts there. -/
theorem begins_with
    {others other rest : List Char}
    (isRun : IsWordRun before run after)
    (otherIsRun : IsWordRun others other rest)
    (sameText : before ++ (run ++ after) = others ++ (other ++ rest))
    (startsNoLater : others.length ≤ before.length)
    (stopsBehind : before.length < others.length + other.length) :
    before = others ∧ run ++ after = other ++ rest := by
  obtain ⟨between, rfl, sameAhead⟩ | ⟨between, rfl, sameAhead⟩ :=
    List.append_eq_append_iff.mp sameText
  · rw [List.length_append] at startsNoLater
    obtain rfl := List.eq_nil_of_length_eq_zero (by omega : between.length = 0)
    exact ⟨(List.append_nil before).symm, sameAhead⟩
  · rcases between.eq_nil_or_concat' with rfl | ⟨front, last, rfl⟩
    · exact ⟨List.append_nil others, sameAhead.symm⟩
    · -- The last character between the two starts would be a word character of the other run.
      rw [List.length_append] at stopsBehind
      have inOther : front ++ [last] <+: other :=
        List.prefix_of_prefix_length_le ⟨run ++ after, sameAhead.symm⟩ ⟨rest, rfl⟩ (by omega)
      have wordChar := otherIsRun.wordChars last (inOther.subset (by simp))
      have apart := isRun.apartBefore
      rw [← List.append_assoc, List.getLast?_concat, Option.any_some, wordChar] at apart
      contradiction

end Text.IsWordRun

namespace Pattern

variable {place final : MatchPlace}

theorem contains_single (c d : Char) : (CharSet.single c).contains d = true ↔ d = c := by
  simp only [CharSet.single, CharSet.contains, CharItem.holds, List.any_cons, List.any_nil,
    Bool.or_false, Bool.bne_false, Bool.and_eq_true, decide_eq_true_eq]
  exact
    ⟨fun within => Char.le_antisymm within.2 within.1,
      fun same => same ▸ ⟨Char.le_refl _, Char.le_refl _⟩⟩

theorem ends_sequence_cons
    (pattern : Pattern)
    (patterns : List Pattern)
    (place : MatchPlace) :
    (sequence (pattern :: patterns)).ends place =
      (pattern.ends place).flatMap (sequence patterns).ends := by
  cases patterns with
  | nil =>
      simp [sequence, ends]
  | cons second patterns =>
      rfl

/-- A choice matches as its alternatives do. -/
theorem mem_ends_choice
    {patterns : List Pattern}
    (somePattern : patterns ≠ []) :
    final ∈ (choice patterns).ends place ↔
      ∃ pattern ∈ patterns, final ∈ pattern.ends place := by
  induction patterns with
  | nil =>
      contradiction
  | cons pattern patterns inductionHypothesis =>
      cases patterns with
      | nil =>
          simp [choice]
      | cons second patterns =>
          have further := inductionHypothesis (List.cons_ne_nil second patterns)
          rw [choice.eq_3 _ _ (List.cons_ne_nil second patterns), ends, List.mem_append, further]
          simp only [List.mem_cons, exists_eq_or_imp]

/-- A literal matches exactly where its text stands. -/
theorem mem_ends_literal
    {word ahead : List Char}
    {index : Nat}
    {previous : Option Char}
    {captured : List Captured} :
    final ∈ (literal word).ends ⟨index, previous, ahead, captured⟩ ↔
      ∃ rest,
        ahead = word ++ rest ∧
          final = ⟨index + word.length, word.getLast?.or previous, rest, captured⟩ := by
  induction word generalizing index previous ahead with
  | nil =>
      simp [literal, sequence, ends]
  | cons c word inductionHypothesis =>
      rw [literal, List.map_cons, ends_sequence_cons, ← literal]
      cases ahead with
      | nil =>
          simp [ends, MatchPlace.advance?]
      | cons d ahead =>
          by_cases isNext : d = c
          · subst isNext
            have advances :
                MatchPlace.advance? ⟨index, previous, d :: ahead, captured⟩ (.single d) =
                  some ⟨index + 1, some d, ahead, captured⟩ :=
              if_pos ((contains_single d d).mpr rfl)
            have goesOn : word.getLast?.or (some d) = (d :: word).getLast?.or previous := by
              rw [List.getLast?_cons]
              cases word.getLast? <;> rfl
            rw [ends, advances, Option.toList_some, List.flatMap_singleton,
              inductionHypothesis, goesOn, List.length_cons, Nat.add_right_comm]
            simp [Nat.add_assoc]
          · have stops :
                MatchPlace.advance? ⟨index, previous, d :: ahead, captured⟩ (.single c) = none :=
              if_neg fun contained => isNext ((contains_single c d).mp contained)
            simp [ends, stops, isNext]

/-- A condition on a place takes nothing. -/
theorem mem_ends_assert {anchor : Anchor} :
    final ∈ (assert anchor).ends place ↔ place.meets anchor = true ∧ final = place := by
  rw [ends]
  split
  · rename_i meets
    simp [meets]
  · rename_i meetsNot
    simp [meetsNot]

/-- A whole word is one of its words between two word boundaries. -/
theorem mem_ends_wholeWord {words : List (List Char)} :
    final ∈ (wholeWord words).ends place ↔
      place.meets .wordBoundary = true ∧
        final ∈ (choice (words.map literal)).ends place ∧ final.meets .wordBoundary = true := by
  have inTurn :
      final ∈ (wholeWord words).ends place ↔
        ∃ first ∈ (assert .wordBoundary).ends place,
          ∃ second ∈ (choice (words.map literal)).ends first,
            final ∈ (assert .wordBoundary).ends second := by
    rw [wholeWord]
    simp only [sequence, ends, List.mem_flatMap]
  rw [inTurn]
  simp only [mem_ends_assert]
  constructor
  · rintro ⟨first, ⟨begins, rfl⟩, second, isWord, stops, rfl⟩
    exact ⟨begins, isWord, stops⟩
  · rintro ⟨begins, isWord, stops⟩
    exact ⟨place, ⟨begins, rfl⟩, final, isWord, stops, rfl⟩

section Words

variable
  {words : List (List Char)}
  {before ahead : List Char}
  (wordChars : ∀ word ∈ words, word ≠ [] ∧ ∀ c ∈ word, Text.isPatternWordChar c = true)

include wordChars

/-- Between word boundaries a word is a whole run of word characters. -/
theorem isWordRun_iff
    {run after : List Char}
    (isWord : run ∈ words) :
    (Text.isWordBoundary before.getLast? (run ++ after).head? = true ∧
        Text.isWordBoundary run.getLast? after.head? = true) ↔
      Text.IsWordRun before run after := by
  obtain ⟨someChar, runChars⟩ := wordChars run isWord
  have first : run.head?.any Text.isPatternWordChar = true := by
    rw [List.head?_eq_some_head someChar]
    exact runChars _ (List.head_mem someChar)
  have last : run.getLast?.any Text.isPatternWordChar = true := by
    rw [List.getLast?_eq_some_getLast someChar]
    exact runChars _ (List.getLast_mem someChar)
  have isFirst : (run ++ after).head? = run.head? := by
    rw [List.head?_append_of_ne_nil _ someChar]
  unfold Text.isWordBoundary
  rw [isFirst, first, last]
  constructor
  · rintro ⟨apartBefore, apartBehind⟩
    exact ⟨someChar, runChars, by simpa using apartBefore, by simpa using apartBehind⟩
  · rintro ⟨-, -, apartBefore, apartBehind⟩
    simp [apartBefore, apartBehind]

/-- A choice of words takes the whole run of word characters at a place. -/
theorem mem_ends_words
    (someWord : words ≠ []) :
    final ∈ (wholeWord words).ends ⟨before.length, before.getLast?, ahead, []⟩ ↔
      ∃ run after,
        ahead = run ++ after ∧
          Text.IsWordRun before run after ∧
            run ∈ words ∧ final = ⟨before.length + run.length, run.getLast?, after, []⟩ := by
  have somePattern : words.map literal ≠ [] := by
    simpa using someWord
  rw [mem_ends_wholeWord, mem_ends_choice somePattern]
  simp only [List.mem_map, exists_exists_and_eq_and, mem_ends_literal]
  have atEnd {run : List Char} (isWord : run ∈ words) :
      run.getLast?.or before.getLast? = run.getLast? := by
    rw [List.getLast?_eq_some_getLast (wordChars run isWord).1, Option.some_or]
  constructor
  · rintro ⟨begins, ⟨run, isWord, after, rfl, rfl⟩, stops⟩
    rw [atEnd isWord] at stops ⊢
    exact ⟨run, after, rfl, (isWordRun_iff wordChars isWord).mp ⟨begins, stops⟩, isWord, rfl⟩
  · rintro ⟨run, after, rfl, isRun, isWord, rfl⟩
    obtain ⟨begins, stops⟩ := (isWordRun_iff wordChars isWord).mpr isRun
    exact ⟨begins, ⟨run, isWord, after, rfl, by rw [atEnd isWord]⟩, stops⟩

/-- The preferred match of a choice of words takes the whole run of word characters. -/
theorem matchAt?_words_iff {found : PatternMatch} :
    (wholeWord words).matchAt? before.length before.getLast? ahead = some found ∧
        found.start < found.stop ↔
      ∃ run after,
        ahead = run ++ after ∧
          Text.IsWordRun before run after ∧
            run ∈ words ∧ found = ⟨before.length, before.length + run.length, []⟩ := by
  constructor
  · rintro ⟨isMatch, takesSome⟩
    obtain ⟨final, isFirst, rfl⟩ := Option.map_eq_some_iff.mp isMatch
    have isEnd := List.mem_of_head? isFirst
    rcases words.eq_nil_or_concat with rfl | ⟨front, last, isCons⟩
    · -- Without any words the pattern is empty between its boundaries.
      obtain ⟨-, isPlace, -⟩ := mem_ends_wholeWord.mp isEnd
      have same := List.mem_singleton.mp isPlace
      simp [same] at takesSome
    · have someWord : words ≠ [] := by
        simp [isCons]
      obtain ⟨run, after, rfl, isRun, isWord, rfl⟩ := (mem_ends_words wordChars someWord).mp isEnd
      exact ⟨run, after, rfl, isRun, isWord, rfl⟩
  · rintro ⟨run, after, rfl, isRun, isWord, rfl⟩
    have someWord : words ≠ [] := List.ne_nil_of_mem isWord
    have isEnd := (mem_ends_words wordChars someWord).mpr ⟨run, after, rfl, isRun, isWord, rfl⟩
    have isFirst := List.head?_eq_some_head (List.ne_nil_of_mem isEnd)
    obtain ⟨other, rest, sameText, otherIsRun, -, isOther⟩ :=
      (mem_ends_words wordChars someWord).mp (List.mem_of_head? isFirst)
    obtain rfl := isRun.unique otherIsRun sameText
    refine ⟨?_, Nat.lt_add_of_pos_right (List.length_pos_iff.mpr isRun.someChar)⟩
    unfold matchAt?
    rw [isFirst, isOther]
    rfl

/-- The matches of a choice of words are the runs of word characters that are among them. -/
theorem mem_allMatches_words
    {text : List Char}
    {found : PatternMatch} :
    found ∈ (wholeWord words).allMatches text ↔
      ∃ before run after,
        text = before ++ (run ++ after) ∧
          Text.IsWordRun before run after ∧
            run ∈ words ∧ found = ⟨before.length, before.length + run.length, []⟩ := by
  have runOfMatch {found : PatternMatch} (isFound : found ∈ (wholeWord words).allMatches text) :
      ∃ before run after,
        text = before ++ (run ++ after) ∧
          Text.IsWordRun before run after ∧
            run ∈ words ∧ found = ⟨before.length, before.length + run.length, []⟩ := by
    obtain ⟨before, ahead, rfl, isMatch⟩ := matchesAt_of_mem_allMatches isFound
    obtain ⟨run, after, rfl, isRun, isWord, isThere⟩ := (matchAt?_words_iff wordChars).mp isMatch
    exact ⟨before, run, after, rfl, isRun, isWord, isThere⟩
  refine ⟨runOfMatch, ?_⟩
  rintro ⟨before, run, after, rfl, isRun, isWord, rfl⟩
  have isMatch :=
    (matchAt?_words_iff wordChars).mpr ⟨run, after, rfl, isRun, isWord, rfl⟩
  have someRun := List.length_pos_iff.mpr isRun.someChar
  have inText : before.length < (before ++ (run ++ after)).length := by
    simp only [List.length_append]
    omega
  obtain ⟨covering, isFound, startsNoLater, stopsBehind⟩ :=
    exists_covering_of_matchesAt ⟨before, run ++ after, rfl, isMatch⟩ inText
  obtain ⟨others, other, rest, sameText, otherIsRun, -, rfl⟩ := runOfMatch isFound
  obtain ⟨rfl, sameAhead⟩ := isRun.begins_with otherIsRun sameText startsNoLater stopsBehind
  obtain rfl := isRun.unique otherIsRun sameAhead
  exact isFound

end Words

end Pattern

end ChordEditor
