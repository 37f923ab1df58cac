import ChordEditor.Pattern.Match
import Mathlib.Data.List.Basic

namespace ChordEditor.Pattern

/-!
# Where a pattern matches

The matches in a text take characters and do not overlap, each is the preferred one at its
place, and a place where the pattern matches some characters lies in one of them at least:
going on behind a match misses no other one that stands apart from it.
-/

/-- At its place a match is the preferred one, and it takes characters. -/
def MatchesAt (pattern : Pattern) (text : List Char) (found : PatternMatch) : Prop :=
  ∃ passed ahead,
    text = passed ++ ahead ∧
      pattern.matchAt? passed.length passed.getLast? ahead = some found ∧
        found.start < found.stop

variable {pattern : Pattern} {found : PatternMatch}

theorem start_of_matchAt?
    {index : Nat}
    {previous : Option Char}
    {ahead : List Char}
    (isMatch : pattern.matchAt? index previous ahead = some found) :
    found.start = index := by
  obtain ⟨final, -, rfl⟩ := Option.map_eq_some_iff.mp isMatch
  rfl

/-- Matches lie behind what is skipped. -/
theorem matchesFrom_behind
    {index skip : Nat}
    {previous : Option Char}
    {text : List Char}
    (isFound : found ∈ pattern.matchesFrom index previous text skip) :
    index + skip ≤ found.start := by
  induction text generalizing index previous skip with
  | nil =>
      simp [matchesFrom] at isFound
  | cons c rest inductionHypothesis =>
      cases skip with
      | succ skip =>
          have behind := inductionHypothesis isFound
          omega
      | zero =>
          unfold matchesFrom at isFound
          split at isFound
          · have behind := inductionHypothesis isFound
            omega
          · rename_i first isMatch
            have begins := start_of_matchAt? isMatch
            split at isFound
            · rcases List.mem_cons.mp isFound with rfl | later
              · omega
              · have behind := inductionHypothesis later
                omega
            · have behind := inductionHypothesis isFound
              omega

/-- Each match ends before the next one begins. -/
theorem matchesFrom_apart
    (pattern : Pattern)
    (index : Nat)
    (previous : Option Char)
    (text : List Char)
    (skip : Nat) :
    (pattern.matchesFrom index previous text skip).Pairwise
      fun earlier later => earlier.stop ≤ later.start := by
  induction text generalizing index previous skip with
  | nil =>
      simp [matchesFrom]
  | cons c rest inductionHypothesis =>
      cases skip with
      | succ skip =>
          exact inductionHypothesis _ _ _
      | zero =>
          unfold matchesFrom
          split
          · exact inductionHypothesis _ _ _
          · split
            · apply List.Pairwise.cons ?_ (inductionHypothesis _ _ _)
              intro later isFound
              have behind := matchesFrom_behind isFound
              omega
            · exact inductionHypothesis _ _ _

/-- What is found is the preferred match at its place. -/
theorem matchesFrom_matchesAt
    (before : List Char)
    {rest : List Char}
    {skip : Nat}
    (isFound : found ∈ pattern.matchesFrom before.length before.getLast? rest skip) :
    pattern.MatchesAt (before ++ rest) found := by
  induction rest generalizing before skip with
  | nil =>
      simp [matchesFrom] at isFound
  | cons c rest inductionHypothesis =>
      have further
          {skip : Nat}
          (later : found ∈ pattern.matchesFrom (before.length + 1) (some c) rest skip) :
          pattern.MatchesAt (before ++ c :: rest) found := by
        have matchesAt := @inductionHypothesis (before ++ [c]) skip (by simpa using later)
        rwa [List.append_assoc] at matchesAt
      cases skip with
      | succ skip =>
          exact further isFound
      | zero =>
          unfold matchesFrom at isFound
          split at isFound
          · exact further isFound
          · rename_i first isMatch
            split at isFound
            · rename_i takesSome
              rcases List.mem_cons.mp isFound with rfl | later
              · refine ⟨before, c :: rest, rfl, isMatch, ?_⟩
                rwa [start_of_matchAt? isMatch]
              · exact further later
            · exact further isFound

/-- A place where the pattern takes characters lies in a match that is found. -/
theorem matchesFrom_covers
    (before : List Char)
    {between ahead : List Char}
    {skip : Nat}
    (notSkipped : skip ≤ between.length)
    (someAhead : ahead ≠ [])
    (isMatch :
      pattern.matchAt? (before ++ between).length (before ++ between).getLast? ahead =
        some found)
    (takesSome : found.start < found.stop) :
    ∃ covering ∈ pattern.matchesFrom before.length before.getLast? (between ++ ahead) skip,
      covering.start ≤ found.start ∧ found.start < covering.stop := by
  have starts := start_of_matchAt? isMatch
  induction between generalizing before skip with
  | nil =>
      obtain rfl := Nat.le_zero.mp notSkipped
      rw [List.append_nil] at isMatch starts
      cases ahead with
      | nil =>
          contradiction
      | cons c rest =>
          refine ⟨found, ?_, Nat.le_refl _, takesSome⟩
          rw [List.nil_append, matchesFrom]
          simp only [isMatch]
          rw [if_pos (starts ▸ takesSome)]
          exact List.mem_cons_self
  | cons c between inductionHypothesis =>
      have further
          (skip : Nat)
          (notSkipped : skip ≤ between.length) :
          ∃ covering ∈
              pattern.matchesFrom (before.length + 1) (some c) (between ++ ahead) skip,
            covering.start ≤ found.start ∧ found.start < covering.stop := by
        have covered :=
          @inductionHypothesis (before ++ [c]) skip notSkipped (by simpa using isMatch)
            (by simpa using starts)
        simpa using covered
      rw [List.length_cons] at notSkipped
      rw [List.cons_append]
      cases skip with
      | succ skip =>
          exact further skip (Nat.le_of_succ_le_succ notSkipped)
      | zero =>
          unfold matchesFrom
          split
          · exact further 0 (Nat.zero_le _)
          · rename_i first isFirst
            have firstStarts := start_of_matchAt? isFirst
            split
            · by_cases within : found.start < first.stop
              · refine ⟨first, List.mem_cons_self, ?_, within⟩
                simp only [List.length_append, List.length_cons] at starts
                omega
              · simp only [List.length_append, List.length_cons] at starts
                obtain ⟨covering, isFound, covers⟩ :=
                  further (first.stop - before.length - 1) (by omega)
                exact ⟨covering, List.mem_cons_of_mem _ isFound, covers⟩
            · exact further 0 (Nat.zero_le _)

section All

variable (pattern : Pattern) (text : List Char)

/-- Each match ends before the next one begins. -/
theorem allMatches_apart :
    (pattern.allMatches text).Pairwise fun earlier later => earlier.stop ≤ later.start :=
  pattern.matchesFrom_apart 0 none text 0

variable {pattern text}

theorem matchesAt_of_mem_allMatches (isFound : found ∈ pattern.allMatches text) :
    pattern.MatchesAt text found :=
  matchesFrom_matchesAt [] isFound

/-- A place where the pattern takes characters lies in one of the matches. -/
theorem exists_covering_of_matchesAt
    (matchesAt : pattern.MatchesAt text found)
    (inText : found.start < text.length) :
    ∃ covering ∈ pattern.allMatches text,
      covering.start ≤ found.start ∧ found.start < covering.stop := by
  obtain ⟨passed, ahead, rfl, isMatch, takesSome⟩ := matchesAt
  have someAhead : ahead ≠ [] := by
    rintro rfl
    rw [start_of_matchAt? isMatch, List.append_nil] at inText
    exact Nat.lt_irrefl _ inText
  exact matchesFrom_covers [] (Nat.zero_le _) someAhead isMatch takesSome

end All

end ChordEditor.Pattern
