import ChordEditor.Highlight.Line
import ChordEditor.Proofs.Pattern.WholeWords
import ChordEditor.Proofs.Pattern.WrittenWords

namespace ChordEditor.Highlight

/-!
# Rules for words

The rule for some words paints the runs of word characters that are one of the words, and
nothing else.  What it paints hangs on which words there are, not on their order or on
whether one begins like another (`rulePaints_words`).
-/

/-- A rule for whole matches paints each of them. -/
theorem rulePaints_of_whole
    (text : List Char)
    {rule : GrammarRule}
    (whole : rule.group = 0) :
    rulePaints text rule =
      (rule.pattern.allMatches text).map fun found =>
        ⟨found.start, found.stop, rule.tokenClass⟩ := by
  rw [rulePaints, ← List.filterMap_eq_map]
  apply List.filterMap_congr
  intro found isFound
  obtain ⟨passed, ahead, -, -, takesSome⟩ := Pattern.matchesAt_of_mem_allMatches isFound
  rw [whole, PatternMatch.group?, if_pos rfl, Option.bind_some, if_pos takesSome]
  rfl

/-- The word characters between two parts of a line, painted. -/
def runPaint (before run : List Char) (tokenClass : TokenClass) : Paint :=
  ⟨before.length, before.length + run.length, tokenClass⟩

/-- Words are not empty and consist of word characters. -/
def AreWords (words : List String) : Prop :=
  ∀ word ∈ words, word ≠ "" ∧ word.toList.all Text.isPatternWordChar = true

instance (words : List String) : Decidable (AreWords words) :=
  inferInstanceAs (Decidable (∀ word ∈ words, word ≠ "" ∧ _))

section Words

variable {words : List String} {text : List Char} {tokenClass : TokenClass}

theorem rulePaints_ofWords (words : List String) (tokenClass : TokenClass) (text : List Char) :
    rulePaints text (.ofWords words tokenClass) =
      ((Pattern.wholeWord (words.map String.toList)).allMatches text).map fun found =>
        ⟨found.start, found.stop, tokenClass⟩ :=
  rulePaints_of_whole text rfl

/-- What is painted are the runs of word characters that are one of the words. -/
theorem mem_rulePaints_words
    (areWords : AreWords words)
    {paint : Paint} :
    paint ∈ rulePaints text (.ofWords words tokenClass) ↔
      ∃ before run after,
        text = before ++ (run ++ after) ∧
          Text.IsWordRun before run after ∧
            String.ofList run ∈ words ∧ paint = runPaint before run tokenClass := by
  have wordChars :
      ∀ word ∈ words.map String.toList,
        word ≠ [] ∧ ∀ c ∈ word, Text.isPatternWordChar c = true := by
    intro word isWord
    obtain ⟨written, isWritten, rfl⟩ := List.mem_map.mp isWord
    obtain ⟨someChar, wordChars⟩ := areWords written isWritten
    exact ⟨fun isNil => someChar (String.toList_eq_nil_iff.mp isNil),
      List.all_eq_true.mp wordChars⟩
  have isListed (run : List Char) :
      run ∈ words.map String.toList ↔ String.ofList run ∈ words := by
    constructor
    · intro isWord
      obtain ⟨written, isWritten, rfl⟩ := List.mem_map.mp isWord
      rwa [String.ofList_toList]
    · intro isWord
      exact List.mem_map.mpr ⟨_, isWord, String.toList_ofList⟩
  rw [rulePaints_ofWords, List.mem_map]
  simp only [Pattern.mem_allMatches_words wordChars, isListed]
  constructor
  · rintro ⟨_, ⟨before, run, after, rfl, isRun, isWord, rfl⟩, rfl⟩
    exact ⟨before, run, after, rfl, isRun, isWord, rfl⟩
  · rintro ⟨before, run, after, rfl, isRun, isWord, rfl⟩
    exact ⟨_, ⟨before, run, after, rfl, isRun, isWord, rfl⟩, rfl⟩

/-- Each paint of a rule for words ends before the next one begins. -/
theorem rulePaints_words_apart (words : List String) (tokenClass : TokenClass) (text : List Char) :
    (rulePaints text (.ofWords words tokenClass)).Pairwise
      fun earlier later => earlier.stop ≤ later.start := by
  rw [rulePaints_ofWords, List.pairwise_map]
  exact Pattern.allMatches_apart _ text

/-- Paints that are apart and not empty are in one order only. -/
theorem eq_of_apart
    {paints otherPaints : List Paint}
    (apart : paints.Pairwise fun earlier later => earlier.stop ≤ later.start)
    (otherApart : otherPaints.Pairwise fun earlier later => earlier.stop ≤ later.start)
    (takeSome : ∀ paint ∈ paints, paint.start < paint.stop)
    (samePaints : ∀ paint, paint ∈ paints ↔ paint ∈ otherPaints) :
    paints = otherPaints := by
  have distinct
      {paints : List Paint}
      (apart : paints.Pairwise fun earlier later => earlier.stop ≤ later.start)
      (takeSome : ∀ paint ∈ paints, paint.start < paint.stop) :
      paints.Nodup := by
    apply apart.imp_of_mem
    rintro earlier _ isPaint - before rfl
    exact absurd before (Nat.not_le.mpr (takeSome earlier isPaint))
  have otherTakeSome : ∀ paint ∈ otherPaints, paint.start < paint.stop :=
    fun paint isPaint => takeSome paint ((samePaints paint).mpr isPaint)
  have permuted : paints.Perm otherPaints :=
    (List.perm_ext_iff_of_nodup (distinct apart takeSome)
      (distinct otherApart otherTakeSome)).mpr samePaints
  refine permuted.eq_of_pairwise ?_ apart otherApart
  intro first second isPaint isOther before behind
  have takesSome := takeSome first isPaint
  have otherTakesSome := otherTakeSome second isOther
  omega

/--
The rule for some words is the one that its source writes.  It paints exactly the runs of word
characters that are one of the words, from left to right, and so does the rule for the same
words in any other order.
-/
theorem rulePaints_words
    (areWords : AreWords words)
    (tokenClass : TokenClass)
    (text : List Char) :
    GrammarRule.ofSource (GrammarRule.ofWords words tokenClass).source 0 tokenClass =
        .ok (.ofWords words tokenClass) ∧
      (rulePaints text (.ofWords words tokenClass)).Pairwise
        (fun earlier later => earlier.stop ≤ later.start) ∧
      (∀ paint,
        paint ∈ rulePaints text (.ofWords words tokenClass) ↔
          ∃ before run after,
            text = before ++ (run ++ after) ∧
              Text.IsWordRun before run after ∧
                String.ofList run ∈ words ∧ paint = runPaint before run tokenClass) ∧
      ∀ others : List String,
        (∀ word, word ∈ others ↔ word ∈ words) →
          rulePaints text (.ofWords others tokenClass) =
            rulePaints text (.ofWords words tokenClass) := by
  refine ⟨GrammarRule.ofSource_ofWords words tokenClass,
    rulePaints_words_apart words tokenClass text,
    fun _ => mem_rulePaints_words areWords, ?_⟩
  intro others sameWords
  have areOthers : AreWords others :=
    fun word isWord => areWords word ((sameWords word).mp isWord)
  apply eq_of_apart (rulePaints_words_apart others tokenClass text)
    (rulePaints_words_apart words tokenClass text)
  · intro paint isPaint
    obtain ⟨before, run, after, -, isRun, -, rfl⟩ := (mem_rulePaints_words areOthers).mp isPaint
    exact Nat.lt_add_of_pos_right (List.length_pos_iff.mpr isRun.someChar)
  · intro paint
    simp only [mem_rulePaints_words areOthers, mem_rulePaints_words areWords, sameWords]

end Words

/-- A word that begins like another one is painted where it stands alone, in either order. -/
theorem shorter_word_painted_in_either_order :
    AreWords ["in", "int", "print"] ∧
      ⟨6, 8, .keyword⟩ ∈
          rulePaints "print in int2".toList (.ofWords ["in", "int", "print"] .keyword) ∧
        ⟨6, 8, .keyword⟩ ∈
          rulePaints "print in int2".toList (.ofWords ["print", "int", "in"] .keyword) := by
  have areWords : AreWords ["in", "int", "print"] := by
    decide
  obtain ⟨-, -, painted, inAnyOrder⟩ := rulePaints_words areWords .keyword "print in int2".toList
  have standsAlone : Text.IsWordRun "print ".toList "in".toList " int2".toList :=
    ⟨by decide, List.all_eq_true.mp (by decide), by decide, by decide⟩
  have isPainted := (painted ⟨6, 8, .keyword⟩).mpr ⟨_, _, _, rfl, standsAlone, by decide, rfl⟩
  have sameWords (word : String) :
      word ∈ ["print", "int", "in"] ↔ word ∈ ["in", "int", "print"] :=
    (List.reverse_perm ["in", "int", "print"]).mem_iff
  exact ⟨areWords, isPainted, (inAnyOrder _ sameWords) ▸ isPainted⟩

end ChordEditor.Highlight
