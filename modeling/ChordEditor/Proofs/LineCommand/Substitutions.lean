import ChordEditor.LineCommand
import ChordEditor.Proofs.Text.Trimmed
import Mathlib.Data.List.Infix

namespace ChordEditor.LineCommand

/-!
# Written substitutions

A slash in a part of a substitution is written with a backslash before it, and everything
else stands for itself.  Reading takes a backslash together with the character behind it,
so a part comes back if no backslash of its own is in front of a slash or at the end
(`read_writtenSubstitution`).
-/

/-- A part of a substitution as it is written. -/
def writtenPart (part : List Char) : List Char :=
  part.flatMap fun c => if c = '/' then ['\\', '/'] else [c]

/-- What makes a substitution go through the whole document. -/
def writtenRange (wholeDocument : Bool) : List Char :=
  if wholeDocument then ['%'] else []

/-- What makes a substitution replace every occurrence. -/
def writtenFlags (everywhere : Bool) : List Char :=
  if everywhere then ['g'] else []

/-- A substitution as it is written. -/
def writtenSubstitution
    (pattern replacement : List Char)
    (wholeDocument everywhere : Bool) : List Char :=
  writtenRange wholeDocument ++
    's' :: '/' :: (writtenPart pattern ++
      '/' :: (writtenPart replacement ++ '/' :: writtenFlags everywhere))

/-- No backslash stands directly before a slash or at the end. -/
def BackslashesApart (part : List Char) : Prop :=
  ¬ ['\\', '/'] <:+: part ∧ part.getLast? ≠ some '\\'

instance (part : List Char) : Decidable (BackslashesApart part) :=
  inferInstanceAs (Decidable (_ ∧ _))

section Parts

variable {c : Char} {part : List Char}

theorem BackslashesApart.tail (apart : BackslashesApart (c :: part)) :
    BackslashesApart part := by
  refine ⟨fun within => apart.1 (within.trans (List.suffix_cons c part).isInfix), ?_⟩
  intro isLast
  apply apart.2
  cases part with
  | nil =>
      cases isLast
  | cons next part =>
      rwa [List.getLast?_cons_cons]

theorem writtenPart_slash (part : List Char) :
    writtenPart ('/' :: part) = '\\' :: '/' :: writtenPart part :=
  rfl

theorem writtenPart_cons (notSlash : c ≠ '/') (part : List Char) :
    writtenPart (c :: part) = c :: writtenPart part := by
  rw [writtenPart, List.flatMap_cons, if_neg notSlash]
  rfl

theorem slashParts_slash (rest : List Char) :
    slashParts ('/' :: rest) = [] :: slashParts rest := by
  rw [slashParts, if_pos rfl] <;> simp

theorem slashParts_backslash (notSlash : c ≠ '/') (rest : List Char) :
    slashParts ('\\' :: c :: rest) = consFirst '\\' (consFirst c (slashParts rest)) :=
  slashParts.eq_3 c rest notSlash

theorem slashParts_cons
    (notBackslash : c ≠ '\\')
    (notSlash : c ≠ '/')
    (rest : List Char) :
    slashParts (c :: rest) = consFirst c (slashParts rest) := by
  rw [slashParts, if_neg notSlash] <;> simp [notBackslash]

/-- A written part is read up to the slash behind it. -/
theorem slashParts_writtenPart
    (apart : BackslashesApart part)
    (rest : List Char) :
    slashParts (writtenPart part ++ '/' :: rest) = part :: slashParts rest := by
  -- Reading takes a backslash and the next character at once, and so does the induction.
  induction part using slashParts.induct with
  | case1 =>
      exact slashParts_slash rest
  | case2 part =>
      exact absurd ⟨[], part, rfl⟩ apart.1
  | case3 c part notSlash inductionHypothesis =>
      rw [writtenPart_cons (by decide), writtenPart_cons notSlash, List.cons_append,
        List.cons_append, slashParts_backslash notSlash,
        inductionHypothesis apart.tail.tail]
      rfl
  | case4 part _ _ inductionHypothesis =>
      rw [writtenPart_slash, List.cons_append, List.cons_append, slashParts,
        inductionHypothesis apart.tail]
      rfl
  | case5 c part _ endsPart notSlash inductionHypothesis =>
      have notBackslash : c ≠ '\\' := by
        rintro rfl
        cases part with
        | nil =>
            exact apart.2 rfl
        | cons next part =>
            exact endsPart next part rfl rfl
      rw [writtenPart_cons notSlash, List.cons_append, slashParts_cons notBackslash notSlash,
        inductionHypothesis apart.tail]
      rfl

end Parts

section Lines

variable {c : Char} {text : List Char}

/-- A text that begins with something else than a digit or a plus sign is no number. -/
theorem unsigned?_of_not_digit
    (notDigit : Text.digitValue? c = none)
    (notPlus : c ≠ '+')
    (limit : Nat)
    (rest : List Char) :
    Text.unsigned? limit (c :: rest) = none := by
  unfold Text.unsigned?
  split
  · rename_i digits isPlus
    exact absurd (List.cons.inj isPlus).1 notPlus
  · simp [Text.digitsValue?, notDigit]

/-- None of the commands that are single words holds a slash. -/
theorem lookup_words_of_slash (slash : '/' ∈ text) :
    words.lookup (String.ofList text) = none := by
  have noSlash : ∀ word ∈ words, '/' ∉ word.1.toList := by
    decide
  rw [List.lookup_eq_none_iff]
  intro word isWord
  rw [bne_iff_ne]
  intro isText
  apply noSlash word isWord
  rwa [← isText, String.toList_ofList]

end Lines

/-- What ends a substitution is not trimmed. -/
theorem trim_of_written
    {c : Char}
    (notBlank : ¬ Text.isBlank c = true)
    (front : List Char)
    (everywhere : Bool) :
    Text.trim (c :: front ++ '/' :: writtenFlags everywhere) =
      c :: front ++ '/' :: writtenFlags everywhere := by
  have someText : ¬ Text.isBlankText ('/' :: writtenFlags everywhere) = true := by
    cases everywhere <;> decide
  have kept : Text.trimEnd ('/' :: writtenFlags everywhere) = '/' :: writtenFlags everywhere := by
    cases everywhere <;> decide
  rw [List.cons_append, Text.trim, Text.trimStart_of_not_blank notBlank, ← List.cons_append,
    Text.trimEnd_append someText, kept]

/-- A line that begins and ends like a substitution is read as one. -/
theorem read_of_substitution
    {c : Char}
    (begins : c = 's' ∨ c = '%')
    (front : List Char)
    (everywhere : Bool) :
    read (c :: front ++ '/' :: writtenFlags everywhere) =
      (readSubstitution? (c :: front ++ '/' :: writtenFlags everywhere)).getD
        (.unknown (c :: front ++ '/' :: writtenFlags everywhere)) := by
  have notBlank : ¬ Text.isBlank c = true := by
    rcases begins with rfl | rfl <;> decide
  have notSearch : c ≠ '/' := by
    rcases begins with rfl | rfl <;> decide
  have notNumber (text : List Char) : Text.unsigned? Text.maxWord64 (c :: text) = none := by
    rcases begins with rfl | rfl <;>
      exact unsigned?_of_not_digit (by decide) (by decide) _ _
  unfold read
  rw [trim_of_written notBlank]
  split
  · contradiction
  · rename_i isSearch
    exact absurd (List.cons.inj isSearch).1 notSearch
  · rename_i isText
    obtain ⟨rfl, rfl⟩ := List.cons.inj isText
    dsimp only
    rw [notNumber, lookup_words_of_slash (by simp)]
    rfl

theorem slashParts_writtenFlags (everywhere : Bool) :
    slashParts (writtenFlags everywhere) = [writtenFlags everywhere] := by
  cases everywhere <;> rfl

/-- The parts of a written substitution make the substitution. -/
theorem substitution?_written
    {pattern : List Char}
    (somePattern : pattern ≠ [])
    (replacement : List Char)
    (wholeDocument everywhere : Bool) :
    substitution? wholeDocument [pattern, replacement, writtenFlags everywhere] =
      some (.substitute pattern replacement wholeDocument everywhere) := by
  have notEmpty : ¬ pattern.isEmpty = true := by
    rwa [List.isEmpty_iff]
  rw [substitution?, if_neg notEmpty]
  cases everywhere <;> rfl

/-- A written substitution begins with its range and ends with its flags. -/
theorem exists_front_of_written
    (pattern replacement : List Char)
    (wholeDocument everywhere : Bool) :
    ∃ c front,
      (c = 's' ∨ c = '%') ∧
        writtenSubstitution pattern replacement wholeDocument everywhere =
          c :: front ++ '/' :: writtenFlags everywhere := by
  cases wholeDocument
  · exact ⟨'s', '/' :: (writtenPart pattern ++ '/' :: writtenPart replacement), .inl rfl,
      by simp [writtenSubstitution, writtenRange]⟩
  · exact ⟨'%', 's' :: '/' :: (writtenPart pattern ++ '/' :: writtenPart replacement), .inr rfl,
      by simp [writtenSubstitution, writtenRange]⟩

/--
A written substitution is read as it was meant, if no backslash in its parts stands directly
before a slash or at the end.
-/
theorem read_writtenSubstitution
    {pattern replacement : List Char}
    (somePattern : pattern ≠ [])
    (patternApart : BackslashesApart pattern)
    (replacementApart : BackslashesApart replacement)
    (wholeDocument everywhere : Bool) :
    read (writtenSubstitution pattern replacement wholeDocument everywhere) =
      .substitute pattern replacement wholeDocument everywhere := by
  have parts :
      slashParts (writtenPart pattern ++
          '/' :: (writtenPart replacement ++ '/' :: writtenFlags everywhere)) =
        [pattern, replacement, writtenFlags everywhere] := by
    rw [slashParts_writtenPart patternApart, slashParts_writtenPart replacementApart,
      slashParts_writtenFlags]
  have isSubstitution :
      readSubstitution? (writtenSubstitution pattern replacement wholeDocument everywhere) =
        some (.substitute pattern replacement wholeDocument everywhere) := by
    have made := substitution?_written somePattern replacement wholeDocument everywhere
    cases wholeDocument
    · exact (congrArg (substitution? false) parts).trans made
    · exact (congrArg (substitution? true) parts).trans made
  obtain ⟨c, front, begins, isWritten⟩ :=
    exists_front_of_written pattern replacement wholeDocument everywhere
  rw [isWritten, read_of_substitution begins, ← isWritten, isSubstitution, Option.getD_some]

/-- Blanks, percent signs, slashes and pairs of backslashes come back. -/
theorem slashes_and_blanks_read_back :
    read "%s/ %s\\/\\d\\// \\\\x\\/g /g".toList =
      .substitute " %s/\\d/".toList " \\\\x/g ".toList true true := by
  have somePattern : " %s/\\d/".toList ≠ [] := by
    decide
  have replacementApart : BackslashesApart " \\\\x/g ".toList := by
    decide
  exact read_writtenSubstitution somePattern (by decide) replacementApart true true

end ChordEditor.LineCommand
