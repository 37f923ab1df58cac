import ChordEditor.Proofs.Text.CodePoints
import ChordEditor.Text.Case

namespace ChordEditor.Text

/-!
# Letters and their forms

What the tables of letters, capitals and their forms say of each other: forms begin with
letters, only letters have another one in lower case, a capital is its own upper case, and
the lower case of anything else is one small character that stays as it is.  All four
tables are gone through once, in one evaluation.
-/

open CodePointSet CaseMap

/-- The rows of the tables, spelled out. -/
structure LetterRows where
  letters : List (List Char)
  capitals : List (List Char)
  upper : List (List Char)
  lower : List (List Char)

namespace LetterRows

def letterBits (rows : LetterRows) : Nat :=
  bitsOf (rangesOf rows.letters)

def capitalBits (rows : LetterRows) : Nat :=
  bitsOf (rangesOf rows.capitals)

/-- The code points that have another form in lower case. -/
def loweredBits (rows : LetterRows) : Nat :=
  bitsOf ((entriesOf rows.lower).map fun entry => ⟨entry.point, entry.point⟩)

def isLetter (rows : LetterRows) (c : Char) : Bool :=
  if isAscii c then c.isAlpha else rows.letterBits.testBit c.toNat

def beginsWithLetter (rows : LetterRows) : List Char → Bool
  | [] => false
  | c :: _ => rows.isLetter c

/-- Whether a form is one character beyond ASCII that is no capital and has no other form. -/
def staysSmall (rows : LetterRows) : List Char → Bool
  | [c] => !isAscii c && !rows.capitalBits.testBit c.toNat && !rows.loweredBits.testBit c.toNat
  | _ => false

def upperAgrees (rows : LetterRows) (entry : CaseEntry) : Bool :=
  !rows.capitalBits.testBit entry.point && rows.beginsWithLetter entry.form

def lowerAgrees (rows : LetterRows) (entry : CaseEntry) : Bool :=
  rows.letterBits.testBit entry.point && rows.beginsWithLetter entry.form &&
    (rows.capitalBits.testBit entry.point || rows.staysSmall entry.form)

/-- Whether ranges stand in increasing order and entries agree with what is a letter. -/
def agree (rows : LetterRows) : Bool :=
  ascendFrom 0 (rangesOf rows.letters) && ascendFrom 0 (rangesOf rows.capitals) &&
    (entriesOf rows.upper).all rows.upperAgrees && (entriesOf rows.lower).all rows.lowerAgrees

/-- The rows are those of some tables, which agree. -/
structure Spell
    (rows : LetterRows)
    (letters capitals : CodePointSet)
    (upper lower : CaseMap) : Prop where
  letters_eq : letters = ⟨(rangesOf rows.letters).toArray⟩
  capitals_eq : capitals = ⟨(rangesOf rows.capitals).toArray⟩
  upper_eq : upper = ⟨(entriesOf rows.upper).toArray⟩
  lower_eq : lower = ⟨(entriesOf rows.lower).toArray⟩
  letters_ascend : ascendFrom 0 (rangesOf rows.letters) = true
  capitals_ascend : ascendFrom 0 (rangesOf rows.capitals) = true
  upper_agree : ∀ entry ∈ entriesOf rows.upper, rows.upperAgrees entry = true
  lower_agree : ∀ entry ∈ entriesOf rows.lower, rows.lowerAgrees entry = true

theorem exists_spelled
    {letters capitals upper lower : List String}
    {letterRows capitalRows upperRows lowerRows : List (List Char)}
    (spellLetters : letters.map String.toList = letterRows)
    (spellCapitals : capitals.map String.toList = capitalRows)
    (spellUpper : upper.map String.toList = upperRows)
    (spellLower : lower.map String.toList = lowerRows)
    (agree : (LetterRows.mk letterRows capitalRows upperRows lowerRows).agree = true) :
    ∃ rows : LetterRows,
      rows.Spell (ofHexRanges letters) (ofHexRanges capitals) (ofHexPairs upper)
        (ofHexPairs lower) := by
  simp only [LetterRows.agree, Bool.and_eq_true, List.all_eq_true] at agree
  obtain ⟨⟨⟨letters_ascend, capitals_ascend⟩, upper_agree⟩, lower_agree⟩ := agree
  exact
    ⟨⟨letterRows, capitalRows, upperRows, lowerRows⟩,
      { letters_eq := ofHexRanges_spelled spellLetters
        capitals_eq := ofHexRanges_spelled spellCapitals
        upper_eq := ofHexPairs_spelled spellUpper
        lower_eq := ofHexPairs_spelled spellLower
        letters_ascend
        capitals_ascend
        upper_agree
        lower_agree }⟩

/-- The tables agree. -/
theorem exists_spell :
    ∃ rows : LetterRows,
      rows.Spell Table.alphabetic Table.uppercase Table.upperMap Table.lowerMap := by
  apply exists_spelled
  iterate 4
    · repeat apply spell_cons
      exact List.map_nil
  decide +kernel

section Spelled

variable {rows : LetterRows} {letters capitals : CodePointSet} {upper lower : CaseMap}
  {c : Char}

theorem contains_letter
    (spell : rows.Spell letters capitals upper lower) :
    letters.contains c = rows.letterBits.testBit c.toNat := by
  rw [spell.letters_eq, Bool.eq_iff_iff]
  exact contains_iff_testBit spell.letters_ascend

theorem contains_capital
    (spell : rows.Spell letters capitals upper lower) :
    capitals.contains c = rows.capitalBits.testBit c.toNat := by
  rw [spell.capitals_eq, Bool.eq_iff_iff]
  exact contains_iff_testBit spell.capitals_ascend

/-- Another form in upper case is that of an entry that agrees. -/
theorem upper_apply
    (spell : rows.Spell letters capitals upper lower)
    (c : Char) :
    upper.apply c = [c] ∨
      rows.capitalBits.testBit c.toNat = false ∧
        rows.beginsWithLetter (upper.apply c) = true := by
  rw [spell.upper_eq]
  refine (apply_eq_or_entry _ c).imp_right ?_
  rintro ⟨entry, isEntry, isPoint, isForm⟩
  simpa [upperAgrees, isPoint, isForm] using spell.upper_agree entry isEntry

/-- Another form in lower case is that of an entry that agrees. -/
theorem lower_apply
    (spell : rows.Spell letters capitals upper lower)
    (c : Char) :
    lower.apply c = [c] ∨
      rows.letterBits.testBit c.toNat = true ∧
        rows.beginsWithLetter (lower.apply c) = true ∧
          (rows.capitalBits.testBit c.toNat = true ∨
            rows.staysSmall (lower.apply c) = true) := by
  rw [spell.lower_eq]
  refine (apply_eq_or_entry _ c).imp_right ?_
  rintro ⟨entry, isEntry, isPoint, isForm⟩
  simpa [lowerAgrees, isPoint, isForm, and_assoc] using spell.lower_agree entry isEntry

/-- A character that no entry is about has no other form. -/
theorem lower_apply_of_testBit
    (spell : rows.Spell letters capitals upper lower)
    (notLowered : rows.loweredBits.testBit c.toNat = false) :
    lower.apply c = [c] := by
  rw [spell.lower_eq]
  refine (apply_eq_or_entry _ c).resolve_right ?_
  rintro ⟨entry, isEntry, isPoint, -⟩
  have isLowered : rows.loweredBits.testBit c.toNat = true :=
    testBit_bitsOf.mpr
      ⟨_, List.mem_map_of_mem isEntry, Nat.le_of_eq isPoint, Nat.le_of_eq isPoint.symm⟩
  rw [notLowered] at isLowered
  contradiction

end Spelled

end LetterRows

section Letters

variable {c : Char}

/-- What holds of the 128 characters of ASCII holds of each. -/
theorem of_isAscii
    (holds : Char → Prop)
    (holdsBelow : ∀ point < 0x80, holds (Char.ofNat point))
    (ascii : isAscii c = true) :
    holds c := by
  have below := holdsBelow c.toNat (of_decide_eq_true ascii)
  rwa [Char.ofNat_toNat] at below

theorem upperForm_of_beyond (beyond : isAscii c = false) :
    upperForm c = Table.upperMap.apply c := by
  rw [upperForm, beyond, if_neg Bool.false_ne_true]

theorem lowerForm_of_beyond (beyond : isAscii c = false) :
    lowerForm c = Table.lowerMap.apply c := by
  rw [lowerForm, beyond, if_neg Bool.false_ne_true]

section Spelled

variable {rows : LetterRows}
  (spell : rows.Spell Table.alphabetic Table.uppercase Table.upperMap Table.lowerMap)

include spell

theorem isAlphabetic_eq : isAlphabetic c = rows.isLetter c := by
  rw [isAlphabetic, LetterRows.isLetter, LetterRows.contains_letter spell]

theorem isUppercase_of_beyond (beyond : isAscii c = false) :
    isUppercase c = rows.capitalBits.testBit c.toNat := by
  rw [isUppercase, beyond, if_neg Bool.false_ne_true, LetterRows.contains_capital spell]

/-- The first character of a form that begins with a letter. -/
theorem isAlphabetic_headD
    {form : List Char}
    (begins : rows.beginsWithLetter form = true) :
    isAlphabetic (form.headD c) = true := by
  cases form with
  | nil =>
      contradiction
  | cons first rest =>
      rw [isAlphabetic_eq spell]
      exact begins

/-- A form that stays small is one character, which has no other form. -/
theorem exists_small
    {form : List Char}
    (stays : rows.staysSmall form = true) :
    ∃ small, form = [small] ∧ isUppercase small = false ∧ lowerForm small = [small] := by
  match form, stays with
  | [small], stays =>
      simp only [LetterRows.staysSmall, Bool.and_eq_true, Bool.not_eq_true'] at stays
      obtain ⟨⟨beyond, notUpper⟩, notLowered⟩ := stays
      refine ⟨small, rfl, ?_, ?_⟩
      · rw [isUppercase_of_beyond spell beyond, notUpper]
      · rw [lowerForm_of_beyond beyond, LetterRows.lower_apply_of_testBit spell notLowered]

end Spelled

/-- A capital is its own upper case. -/
theorem upperForm_of_isUppercase (isUpper : isUppercase c = true) :
    upperForm c = [c] := by
  cases ascii : isAscii c with
  | true =>
      exact of_isAscii (fun c => isUppercase c = true → upperForm c = [c])
        (by decide +kernel) ascii isUpper
  | false =>
      obtain ⟨rows, spell⟩ := LetterRows.exists_spell
      rw [isUppercase_of_beyond spell ascii] at isUpper
      rw [upperForm_of_beyond ascii]
      refine (LetterRows.upper_apply spell c).resolve_right ?_
      rw [isUpper]
      rintro ⟨notUpper, -⟩
      contradiction

/-- The upper case of a letter begins with a letter. -/
theorem isAlphabetic_upperChar (isLetter : isAlphabetic c = true) :
    isAlphabetic (upperChar c) = true := by
  cases ascii : isAscii c with
  | true =>
      exact of_isAscii
        (fun c => isAlphabetic c = true → isAlphabetic (upperChar c) = true)
        (by decide +kernel) ascii isLetter
  | false =>
      obtain ⟨rows, spell⟩ := LetterRows.exists_spell
      rw [upperChar, upperForm_of_beyond ascii]
      obtain same | ⟨-, begins⟩ := LetterRows.upper_apply spell c
      · rwa [same]
      · exact isAlphabetic_headD spell begins

/-- The lower case of a letter begins with a letter. -/
theorem isAlphabetic_lowerChar (isLetter : isAlphabetic c = true) :
    isAlphabetic (lowerChar c) = true := by
  cases ascii : isAscii c with
  | true =>
      exact of_isAscii
        (fun c => isAlphabetic c = true → isAlphabetic (lowerChar c) = true)
        (by decide +kernel) ascii isLetter
  | false =>
      obtain ⟨rows, spell⟩ := LetterRows.exists_spell
      rw [lowerChar, lowerForm_of_beyond ascii]
      obtain same | ⟨-, begins, -⟩ := LetterRows.lower_apply spell c
      · rwa [same]
      · exact isAlphabetic_headD spell begins

/-- Only letters have another form in lower case. -/
theorem lowerForm_of_isAlphabetic_eq_false (isOther : isAlphabetic c = false) :
    lowerForm c = [c] := by
  cases ascii : isAscii c with
  | true =>
      exact of_isAscii (fun c => isAlphabetic c = false → lowerForm c = [c])
        (by decide +kernel) ascii isOther
  | false =>
      obtain ⟨rows, spell⟩ := LetterRows.exists_spell
      rw [isAlphabetic_eq spell, LetterRows.isLetter, ascii,
        if_neg Bool.false_ne_true] at isOther
      rw [lowerForm_of_beyond ascii]
      refine (LetterRows.lower_apply spell c).resolve_right ?_
      rw [isOther]
      rintro ⟨isLetter, -⟩
      contradiction

/-- No letter has the lower case of what is no letter. -/
theorem lowerForm_ne_of_isAlphabetic
    {letter : Char}
    (isOther : isAlphabetic c = false)
    (isLetter : isAlphabetic letter = true) :
    lowerForm c ≠ lowerForm letter := by
  intro sameForm
  have isLower : lowerChar letter = c := by
    rw [lowerChar, ← sameForm, lowerForm_of_isAlphabetic_eq_false isOther, List.headD_cons]
  have lowerIsLetter := isAlphabetic_lowerChar isLetter
  rw [isLower, isOther] at lowerIsLetter
  contradiction

/-- What is no capital has one small character for its lower case, which stays as it is. -/
theorem lowerForm_of_isUppercase_eq_false (notUpper : isUppercase c = false) :
    isUppercase (lowerChar c) = false ∧
      lowerForm c = [lowerChar c] ∧ lowerForm (lowerChar c) = [lowerChar c] := by
  suffices stays :
      lowerForm c = [c] ∨
        ∃ small, lowerForm c = [small] ∧ isUppercase small = false ∧ lowerForm small = [small] by
    rcases stays with same | ⟨small, isForm, notUpper, same⟩
    · simp only [lowerChar, same, List.headD_cons]
      exact ⟨notUpper, trivial, trivial⟩
    · simp only [lowerChar, isForm, List.headD_cons]
      exact ⟨notUpper, trivial, same⟩
  cases ascii : isAscii c with
  | true =>
      exact .inl (of_isAscii (fun c => isUppercase c = false → lowerForm c = [c])
        (by decide +kernel) ascii notUpper)
  | false =>
      obtain ⟨rows, spell⟩ := LetterRows.exists_spell
      rw [isUppercase_of_beyond spell ascii] at notUpper
      rw [lowerForm_of_beyond ascii]
      refine (LetterRows.lower_apply spell c).imp_right ?_
      rintro ⟨-, -, isUpper | stays⟩
      · rw [notUpper] at isUpper
        contradiction
      · exact exists_small spell stays

end Letters

end ChordEditor.Text
