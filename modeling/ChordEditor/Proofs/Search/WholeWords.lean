import ChordEditor.Proofs.Buffer.WordAt
import ChordEditor.Proofs.Search.Matches

namespace ChordEditor

/-!
# Searching for the word at a place

The word at a place consists of the word characters of motions, but it is searched for
between the word boundaries of patterns.  So it may not be found where it stands, if there
is no such boundary at one of its ends, and a match may go on with a word character.

An occurrence that no word character goes on overlaps with no other one.  So it is among
the matches, and all matches stand alone exactly if all occurrences do.  Where the two
kinds of word characters agree all of this holds.
-/

/-- Within ASCII the word characters of motions are those of patterns. -/
theorem Text.isWordChar_of_isAscii
    {c : Char}
    (ascii : isAscii c = true) :
    isWordChar c = isPatternWordChar c := by
  unfold isWordChar isAlphanumeric isAlphabetic isNumeric isPatternWordChar
  rw [if_pos ascii, if_pos ascii, if_pos ascii]
  rfl

namespace SearchTerm

open Buffer (hasWordCharAt StandsAlone)

variable
  {term : SearchTerm}
  {text : List Char}
  {spans : List Span}
  {start : Nat}

/-- Where a term of word characters occurs the text has word characters. -/
theorem OccursAt.hasWordCharAt
    (occurs : term.OccursAt text start)
    (wordChars : ∀ c ∈ term.text, Text.isWordChar c = true)
    {place : Nat}
    (starts : start ≤ place)
    (stops : place < start + term.text.length) :
    hasWordCharAt text place = true := by
  obtain ⟨before, after, rfl, rfl, _⟩ := occurs
  obtain ⟨index, rfl⟩ := Nat.exists_eq_add_of_le starts
  have within : index < term.text.length := by
    omega
  rw [Buffer.hasWordCharAt, List.append_assoc, List.getElem?_append_right starts,
    Nat.add_sub_cancel_left, List.getElem?_append_left within, List.getElem?_eq_getElem within,
    Option.any_some]
  exact wordChars _ (List.getElem_mem within)

/-- A span between two parts of a text stands alone if their neighbours are no word characters. -/
theorem standsAlone_iff (before word after : List Char) :
    StandsAlone (before ++ word ++ after) ⟨before.length, before.length + word.length⟩ ↔
      before.getLast?.any Text.isWordChar = false ∧
        after.head?.any Text.isWordChar = false := by
  have behind :
      hasWordCharAt (before ++ word ++ after) (before.length + word.length) =
        after.head?.any Text.isWordChar := by
    rw [Buffer.hasWordCharAt, ← List.length_append, List.getElem?_append_right (Nat.le_refl _),
      Nat.sub_self, List.head?_eq_getElem?]
  have ahead (someBefore : 0 < before.length) :
      hasWordCharAt (before ++ word ++ after) (before.length - 1) =
        before.getLast?.any Text.isWordChar := by
    have isLast : before.length - 1 < before.length := by
      omega
    rw [Buffer.hasWordCharAt, List.append_assoc, List.getElem?_append_left isLast,
      List.getLast?_eq_getElem?]
  constructor
  · intro alone
    refine ⟨?_, behind.symm.trans alone.behind⟩
    cases before with
    | nil =>
        rfl
    | cons c rest =>
        have someBefore : 0 < (c :: rest).length := Nat.succ_pos _
        exact (ahead someBefore).symm.trans (alone.before someBefore)
  · rintro ⟨apartBefore, apartBehind⟩
    exact ⟨fun someBefore => (ahead someBefore).trans apartBefore, behind.trans apartBehind⟩

section Listed

variable
  (listed : term.MatchList text 0 spans)
  (wordChars : ∀ c ∈ term.text, Text.isWordChar c = true)

include listed wordChars

/-- An occurrence with no word character before it is a match. -/
theorem MatchList.mem_of_apart
    (occurs : term.OccursAt text start)
    (apart : 0 < start → hasWordCharAt text (start - 1) = false) :
    ⟨start, start + term.text.length⟩ ∈ spans := by
  obtain ⟨⟨first, last⟩, isMatch, starts, stops⟩ :=
    listed.leftmost start (Nat.zero_le start) occurs
  have wide := listed.wide _ isMatch
  dsimp only at wide starts stops
  subst wide
  -- A match that began earlier would have a word character right before the occurrence.
  rcases Nat.eq_or_lt_of_le starts with rfl | isEarlier
  · exact isMatch
  · have wordChar :=
      (listed.occurs _ isMatch).hasWordCharAt wordChars
        (show first ≤ start - 1 by omega) (show start - 1 < first + term.text.length by omega)
    rw [apart (by omega)] at wordChar
    contradiction

/-- The matches stand alone if all occurrences do, those that the matches overlap as well. -/
theorem MatchList.all_alone_iff :
    (∀ found ∈ spans, StandsAlone text found) ↔
      ∀ start,
        term.OccursAt text start → StandsAlone text ⟨start, start + term.text.length⟩ := by
  constructor
  · intro alone start occurs
    obtain ⟨⟨first, last⟩, isMatch, starts, stops⟩ :=
      listed.leftmost start (Nat.zero_le start) occurs
    have wide := listed.wide _ isMatch
    have isAlone := alone _ isMatch
    dsimp only at wide starts stops
    subst wide
    rcases Nat.eq_or_lt_of_le starts with rfl | isEarlier
    · exact isAlone
    · -- The match ends within the occurrence, so it goes on with a word character.
      have wordChar :=
        occurs.hasWordCharAt wordChars
          (show start ≤ first + term.text.length by omega)
          (show first + term.text.length < start + term.text.length by omega)
      rw [isAlone.behind] at wordChar
      contradiction
  · intro alone found isMatch
    obtain ⟨first, last⟩ := found
    have wide := listed.wide _ isMatch
    dsimp only at wide
    subst wide
    exact alone first (listed.occurs _ isMatch)

end Listed

section Agreeing

variable (agree : ∀ c ∈ text, Text.isWordChar c = Text.isPatternWordChar c)

include agree

theorem any_eq_of_agree
    {neighbour : Option Char}
    (isIn : ∀ c, neighbour = some c → c ∈ text) :
    neighbour.any Text.isWordChar = neighbour.any Text.isPatternWordChar := by
  cases neighbour with
  | none =>
      rfl
  | some c =>
      exact agree c (isIn c rfl)

/-- A word occurs as a whole exactly where it stands alone, if word characters agree. -/
theorem wholeWord_iff_of_agree
    {before word after : List Char}
    (shape : text = before ++ word ++ after)
    (someChar : word ≠ [])
    (wordChars : ∀ c ∈ word, Text.isWordChar c = true) :
    (Text.isWordBoundary before.getLast? word.head? = true ∧
        Text.isWordBoundary word.getLast? after.head? = true) ↔
      StandsAlone text ⟨before.length, before.length + word.length⟩ := by
  have inWord {c : Char} (isIn : c ∈ word) : Text.isPatternWordChar c = true := by
    rw [← agree c (by simp [shape, isIn])]
    exact wordChars c isIn
  have first : word.head?.any Text.isPatternWordChar = true := by
    rw [List.head?_eq_some_head someChar]
    exact inWord (List.head_mem someChar)
  have last : word.getLast?.any Text.isPatternWordChar = true := by
    rw [List.getLast?_eq_some_getLast someChar]
    exact inWord (List.getLast_mem someChar)
  have left :
      before.getLast?.any Text.isWordChar = before.getLast?.any Text.isPatternWordChar := by
    apply any_eq_of_agree agree
    intro c isLast
    simp [shape, List.mem_of_getLast? isLast]
  have right :
      after.head?.any Text.isWordChar = after.head?.any Text.isPatternWordChar := by
    apply any_eq_of_agree agree
    intro c isFirst
    simp [shape, List.mem_of_head? isFirst]
  rw [shape, standsAlone_iff, left, right]
  unfold Text.isWordBoundary
  rw [first, last]
  simp

end Agreeing

end SearchTerm

end ChordEditor
