import ChordEditor.Grammar.Basic
import Mathlib.Data.List.Basic

namespace ChordEditor

/-!
# Reading written words

A text written for a pattern is read as itself, character by character, and a choice of
written words as the choice of their literals.  So the rule for some words is the one that
is read from its source.
-/

namespace PatternToken

variable {c : Char}

/-- A character that stands for itself is read as the set of itself. -/
theorem tokensFrom?_plain (isPlain : isPatternMeta c = false) (rest : List Char) :
    tokensFrom? none (c :: rest) = (tokensFrom? none rest).map (.oneOf (.single c) :: ·) := by
  have notMeta {special : Char} (isMeta : isPatternMeta special = true) : c ≠ special := by
    rintro rfl
    rw [isPlain] at isMeta
    contradiction
  have isSimple : simple c = .oneOf (.single c) := by
    unfold simple
    split
    all_goals first | rfl | exact absurd isPlain (by decide)
  rw [tokensFrom?, if_neg (notMeta (by decide)), isSimple]
  all_goals
    intros
    exact absurd (by assumption) (notMeta (by decide))

/-- A character behind a backslash that cannot stand for itself is read as the set of itself. -/
theorem tokensFrom?_escaped (isMeta : isPatternMeta c = true) (rest : List Char) :
    tokensFrom? none ('\\' :: c :: rest) =
      (tokensFrom? none rest).map (.oneOf (.single c) :: ·) := by
  have isToken : escapedToken? c = some (.oneOf (.single c)) := by
    have each :
        "\\.+*?()|[]\x7b\x7d^$#&-~".toList.all
          (fun special => escapedToken? special = some (.oneOf (.single special))) = true := by
      decide
    exact of_decide_eq_true (List.all_eq_true.mp each c (List.contains_iff_mem.mp isMeta))
  rw [tokensFrom?, isToken, Option.map_eq_bind]
  rfl

/-- The tokens of a text that stands for itself. -/
def ofText (text : List Char) : List PatternToken :=
  text.map fun c => .oneOf (.single c)

/-- A written text is read as itself. -/
theorem tokensFrom?_escapeForPattern (text rest : List Char) :
    tokensFrom? none (escapeForPattern text ++ rest) =
      (tokensFrom? none rest).map (ofText text ++ ·) := by
  induction text with
  | nil =>
      exact Option.map_id'.symm
  | cons c text inductionHypothesis =>
      rw [escapeForPattern, List.flatMap_cons, ← escapeForPattern]
      cases isMeta : isPatternMeta c with
      | false =>
          rw [if_neg Bool.false_ne_true, List.singleton_append, List.cons_append,
            tokensFrom?_plain isMeta, inductionHypothesis, Option.map_map]
          rfl
      | true =>
          rw [if_pos rfl, List.cons_append, List.singleton_append, List.cons_append,
            List.cons_append, tokensFrom?_escaped isMeta, inductionHypothesis, Option.map_map]
          rfl

/-- Texts written as alternatives are read as alternatives. -/
theorem tokensFrom?_alternatives (texts : List (List Char)) (rest : List Char) :
    tokensFrom? none (['|'].intercalate (texts.map escapeForPattern) ++ rest) =
      (tokensFrom? none rest).map ([.bar].intercalate (texts.map ofText) ++ ·) := by
  induction texts with
  | nil =>
      exact Option.map_id'.symm
  | cons text texts inductionHypothesis =>
      cases texts with
      | nil =>
          simp only [List.map_cons, List.map_nil, List.intercalate_singleton]
          exact tokensFrom?_escapeForPattern text rest
      | cons second texts =>
          have bar (behind : List Char) :
              tokensFrom? none ('|' :: behind) = (tokensFrom? none behind).map (.bar :: ·) := by
            rw [tokensFrom?, if_neg (by decide)]
            · rfl
            all_goals
              intros
              contradiction
          rw [List.map_cons, List.map_cons, List.intercalate_cons_cons, ← List.map_cons,
            List.append_assoc, List.append_assoc, tokensFrom?_escapeForPattern,
            List.singleton_append, bar, inductionHypothesis, Option.map_map, Option.map_map]
          congr 1
          funext tokens
          simp

end PatternToken

/-- A group with a text put behind the sequence being read. -/
def PatternFrame.addText (frame : PatternFrame) (text : List Char) : PatternFrame :=
  { frame with
    sequence := (text.map fun c => Pattern.oneOf (.single c)).reverse ++ frame.sequence }

namespace PatternReader

open PatternToken (ofText)

/-- A text becomes part of the sequence being read. -/
theorem foldlM_ofText (text : List Char) (reader : PatternReader) :
    (ofText text).foldlM take? reader =
      some { reader with inner := reader.inner.addText text } := by
  induction text generalizing reader with
  | nil =>
      rfl
  | cons c text inductionHypothesis =>
      rw [ofText, List.map_cons, List.foldlM_cons, ← ofText, take?, Option.bind_eq_bind,
        Option.bind_some, inductionHypothesis]
      unfold PatternFrame.addText PatternFrame.add
      rw [List.map_cons, List.reverse_cons, List.append_assoc]
      rfl

/-- Behind a text that is all of the sequence the group has one more alternative. -/
theorem alternatives_addText
    {frame : PatternFrame}
    (begins : frame.sequence = [])
    (text : List Char) :
    (frame.addText text).nextAlternative =
      { frame with alternatives := Pattern.literal text :: frame.alternatives } := by
  unfold PatternFrame.nextAlternative PatternFrame.addText
  rw [begins, List.append_nil, List.reverse_reverse]
  rfl

/-- Texts become further alternatives of the innermost group. -/
theorem foldlM_alternatives
    (text : List Char)
    (texts : List (List Char))
    (reader : PatternReader)
    (begins : reader.inner.sequence = []) :
    ∃ inner : PatternFrame,
      ([.bar].intercalate ((text :: texts).map ofText)).foldlM take? reader =
          some { reader with inner } ∧
        inner.number = reader.inner.number ∧
          inner.nextAlternative.alternatives =
            ((text :: texts).map Pattern.literal).reverse ++ reader.inner.alternatives := by
  induction texts generalizing text reader with
  | nil =>
      refine ⟨reader.inner.addText text, ?_, rfl, ?_⟩
      · rw [List.map_singleton, List.intercalate_singleton, foldlM_ofText]
      · rw [alternatives_addText begins]
        rfl
  | cons second texts inductionHypothesis =>
      obtain ⟨inner, takes, number, alternatives⟩ :=
        inductionHypothesis second
          { reader with inner := (reader.inner.addText text).nextAlternative } rfl
      refine ⟨inner, ?_, number, ?_⟩
      · rw [List.map_cons, List.map_cons, List.intercalate_cons_cons, ← List.map_cons,
          List.append_assoc, List.foldlM_append, foldlM_ofText, Option.bind_eq_bind,
          Option.bind_some,
          List.singleton_append, List.foldlM_cons]
        exact takes
      · rw [alternatives, alternatives_addText begins]
        simp

/-- A group of alternatives is read as their choice. -/
theorem foldlM_choice
    (texts : List (List Char))
    (outer : List PatternFrame)
    (groups : Nat) :
    ∃ inner : PatternFrame,
      ([.bar].intercalate (texts.map ofText)).foldlM take?
          { inner := { number := none }, outer, groups } =
          some { inner, outer, groups } ∧
        inner.close = Pattern.choice (texts.map Pattern.literal) := by
  cases texts with
  | nil =>
      exact ⟨{ number := none }, rfl, rfl⟩
  | cons text texts =>
      obtain ⟨inner, takes, number, alternatives⟩ :=
        foldlM_alternatives text texts { inner := { number := none }, outer, groups } rfl
      refine ⟨inner, takes, ?_⟩
      unfold PatternFrame.close
      rw [number, alternatives, List.append_nil, List.reverse_reverse]

end PatternReader

/-- Written words between word boundaries, as the tokens that they consist of. -/
theorem PatternToken.tokens?_words (words : List (List Char)) :
    tokens?
        ('\\' :: 'b' :: '(' :: '?' :: ':' ::
          (['|'].intercalate (words.map escapeForPattern) ++ [')', '\\', 'b'])) =
      some
        (.assert .wordBoundary :: .openGroup false ::
          ([.bar].intercalate (words.map ofText) ++ [.closeGroup, .assert .wordBoundary])) := by
  have closes :
      tokensFrom? none [')', '\\', 'b'] = some [.closeGroup, .assert .wordBoundary] := by
    decide
  have opens (rest : List Char) :
      tokensFrom? none ('\\' :: 'b' :: '(' :: '?' :: ':' :: rest) =
        (tokensFrom? none rest).map (.assert .wordBoundary :: .openGroup false :: ·) := by
    rw [tokensFrom?, tokensFrom?]
    cases tokensFrom? none rest <;> rfl
  rw [tokens?, opens, tokensFrom?_alternatives, closes]
  rfl

/-- Written words between word boundaries are read as a choice of whole words. -/
theorem Pattern.read?_words (words : List (List Char)) :
    read?
        ('\\' :: 'b' :: '(' :: '?' :: ':' ::
          (['|'].intercalate (words.map escapeForPattern) ++ [')', '\\', 'b'])) =
      some (wholeWord words) := by
  obtain ⟨inner, takes, isChoice⟩ :=
    PatternReader.foldlM_choice words
      [{ number := none, sequence := [.assert .wordBoundary] }] 0
  let start : PatternFrame := { number := none, sequence := [.assert .wordBoundary] }
  have closes :
      ([PatternToken.bar].intercalate (words.map PatternToken.ofText) ++
          [PatternToken.closeGroup, .assert .wordBoundary]).foldlM PatternReader.take?
          { inner := { number := none }, outer := [start] } =
        some { inner := (start.add inner.close).add (.assert .wordBoundary) } := by
    rw [List.foldlM_append, takes]
    rfl
  unfold read?
  rw [PatternToken.tokens?_words]
  refine (congrArg (Option.bind · PatternReader.finish?) closes).trans ?_
  rw [isChoice]
  rfl

namespace GrammarRule

/-- The rule for some words is the one that its source writes. -/
theorem ofSource_ofWords (words : List String) (tokenClass : TokenClass) :
    ofSource (ofWords words tokenClass).source 0 tokenClass = .ok (ofWords words tokenClass) := by
  have source :
      (ofWords words tokenClass).source.toList =
        '\\' :: 'b' :: '(' :: '?' :: ':' ::
          (['|'].intercalate ((words.map String.toList).map escapeForPattern) ++
            [')', '\\', 'b']) := by
    have written (word : String) : (escaped word).toList = escapeForPattern word.toList :=
      String.toList_ofList
    simp only [ofWords, String.toList_append, String.toList_intercalate, List.map_map,
      Function.comp_def, written]
    rfl
  unfold ofSource
  rw [source, Pattern.read?_words]
  rfl

end GrammarRule

end ChordEditor
