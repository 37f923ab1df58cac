import ChordEditor.Text.CodePointTable
import ChordEditor.Text.Classes
import ChordEditor.Text.Lines
import Mathlib.Data.List.Basic

namespace ChordEditor.Text

/-!
# What is found in the tables of code points

A code point that is found in a set lies in one of its ranges, and where the ranges stand in
increasing order every code point of a range is found.  The same set is one number with its
code points for bits, which is how one table is compared with all entries of another in a
single evaluation.

A set leaves out every code point that no row of its table has in a range.  The rows of the
tables of letters and numbers are gone through once, for the line breaks beyond ASCII: no
line break is a character of a word.
-/

/-- A range that is not empty and ends before another one starts. -/
def CodePointRange.Before (range later : CodePointRange) : Prop :=
  range.lo ≤ range.hi ∧ range.hi < later.lo

namespace CodePointSet

variable {points : List Nat} {rows : List String} {c : Char}

/-- A code point that is found lies in one of the ranges. -/
theorem exists_range_of_search
    {ranges : Array CodePointRange}
    {point low high : Nat}
    (found : search ranges point low high = true) :
    ∃ range ∈ ranges, range.lo ≤ point ∧ point ≤ range.hi := by
  fun_induction search ranges point low high with
  | case1 low high someLeft middle outside =>
      contradiction
  | case2 low high someLeft middle range here before inductionHypothesis =>
      exact inductionHypothesis found
  | case3 low high someLeft middle range here notBefore behind inductionHypothesis =>
      exact inductionHypothesis found
  | case4 low high someLeft middle range here notBefore notBehind =>
      exact ⟨range, Array.mem_of_getElem? here, Nat.le_of_not_lt notBefore,
        Nat.le_of_not_lt notBehind⟩
  | case5 low high noneLeft =>
      contradiction

/-- Whether some ranges stand in increasing order, none of them below a code point. -/
def ascendFrom (point : Nat) : List CodePointRange → Bool
  | [] => true
  | range :: ranges =>
      point.ble range.lo && range.lo.ble range.hi && ascendFrom (range.hi + 1) ranges

/-- The code points of some ranges as the bits of a number. -/
def bitsOf : List CodePointRange → Nat
  | [] => 0
  | range :: ranges => (1 <<< (range.hi + 1 - range.lo) - 1) <<< range.lo ||| bitsOf ranges

/-- The ranges of a table whose rows are spelled out. -/
def rangesOf (rows : List (List Char)) : List CodePointRange :=
  rows.flatMap fun row => (piecesBy ' ' row).map CodePointRange.ofHex

section Ranges

variable {ranges : List CodePointRange} {point : Nat}

theorem le_of_ascendFrom
    {low : Nat}
    (ascend : ascendFrom low ranges = true) :
    ∀ range ∈ ranges, low ≤ range.lo := by
  induction ranges generalizing low with
  | nil =>
      exact List.forall_mem_nil _
  | cons range ranges inductionHypothesis =>
      simp only [ascendFrom, Bool.and_eq_true, Nat.ble_eq] at ascend
      obtain ⟨⟨fromLow, notEmpty⟩, ascendBehind⟩ := ascend
      refine List.forall_mem_cons.mpr ⟨fromLow, fun later isLater => ?_⟩
      have behind := inductionHypothesis ascendBehind later isLater
      omega

theorem pairwise_of_ascendFrom
    {low : Nat}
    (ascend : ascendFrom low ranges = true) :
    ranges.Pairwise CodePointRange.Before := by
  induction ranges generalizing low with
  | nil =>
      exact List.Pairwise.nil
  | cons range ranges inductionHypothesis =>
      simp only [ascendFrom, Bool.and_eq_true, Nat.ble_eq] at ascend
      obtain ⟨⟨-, notEmpty⟩, ascendBehind⟩ := ascend
      exact List.Pairwise.cons
        (fun later isLater => ⟨notEmpty, le_of_ascendFrom ascendBehind later isLater⟩)
        (inductionHypothesis ascendBehind)

theorem before_of_lt
    {ranges : Array CodePointRange}
    (inOrder : ranges.toList.Pairwise CodePointRange.Before)
    {place later : Nat}
    (order : place < later)
    (within : later < ranges.size) :
    ranges[place].Before ranges[later] := by
  have places := List.pairwise_iff_getElem.mp inOrder place later
    (Nat.lt_trans order within) within order
  simpa using places

/-- The search of ranges in increasing order misses none of them. -/
theorem search_of_range
    {ranges : Array CodePointRange}
    (inOrder : ranges.toList.Pairwise CodePointRange.Before)
    {low high place : Nat}
    (withinRanges : high ≤ ranges.size)
    (isPlace : place < ranges.size)
    (notBelow : low ≤ place)
    (below : place < high)
    (fromLow : ranges[place].lo ≤ point)
    (toHigh : point ≤ ranges[place].hi) :
    search ranges point low high = true := by
  fun_induction search ranges point low high with
  | case1 low high someLeft middle outside =>
      have noSuchPlace := Array.getElem?_eq_none_iff.mp outside
      omega
  | case2 low high someLeft middle range here lower inductionHypothesis =>
      obtain ⟨isMiddle, rfl⟩ := Array.getElem?_eq_some_iff.mp here
      refine inductionHypothesis (by omega) notBelow (Nat.lt_of_not_le fun notLower => ?_)
      obtain rfl | higher := Nat.eq_or_lt_of_le notLower
      · omega
      · obtain ⟨notEmpty, apart⟩ := before_of_lt inOrder higher isPlace
        omega
  | case3 low high someLeft middle range here notLower higher inductionHypothesis =>
      obtain ⟨isMiddle, rfl⟩ := Array.getElem?_eq_some_iff.mp here
      refine inductionHypothesis withinRanges (Nat.lt_of_not_le fun notHigher => ?_) below
      obtain rfl | lower := Nat.eq_or_lt_of_le notHigher
      · omega
      · obtain ⟨-, apart⟩ := before_of_lt inOrder lower isMiddle
        omega
  | case4 low high someLeft middle range here notLower notHigher =>
      rfl
  | case5 low high noneLeft =>
      omega

theorem testBit_bitsOf :
    (bitsOf ranges).testBit point = true ↔
      ∃ range ∈ ranges, range.lo ≤ point ∧ point ≤ range.hi := by
  induction ranges with
  | nil =>
      simp [bitsOf]
  | cons range ranges inductionHypothesis =>
      have isInRange :
          range.lo ≤ point ∧ point - range.lo < range.hi + 1 - range.lo ↔
            range.lo ≤ point ∧ point ≤ range.hi := by
        omega
      simp [bitsOf, Nat.testBit_or, Nat.testBit_shiftLeft, Nat.one_shiftLeft,
        Nat.testBit_two_pow_sub_one, inductionHypothesis, isInRange]

/-- What a set with ranges in increasing order holds are the bits of its number. -/
theorem contains_iff_testBit
    (ascend : ascendFrom 0 ranges = true)
    {c : Char} :
    (CodePointSet.mk ranges.toArray).contains c = true ↔
      (bitsOf ranges).testBit c.toNat = true := by
  rw [testBit_bitsOf]
  constructor
  · intro contained
    simpa using exists_range_of_search contained
  · rintro ⟨range, isRange, fromLow, toHigh⟩
    obtain ⟨place, isPlace, rfl⟩ := List.mem_iff_getElem.mp isRange
    exact search_of_range (pairwise_of_ascendFrom ascend) (Nat.le_refl _) isPlace
      (Nat.zero_le _) isPlace fromLow toHigh

end Ranges

/-- The characters of a literal are those that it spells. -/
theorem ofHexRanges_spelled
    {rows : List String}
    {spelled : List (List Char)}
    (spell : rows.map String.toList = spelled) :
    ofHexRanges rows = ⟨(rangesOf spelled).toArray⟩ := by
  rw [← spell, ofHexRanges, rangesOf, List.flatMap_map]

/-- No range in a row of a table holds one of the code points. -/
def RowLeavesOut (points : List Nat) (row : List Char) : Prop :=
  ∀ piece ∈ piecesBy ' ' row,
    ∀ point ∈ points,
      point < (CodePointRange.ofHex piece).lo ∨ (CodePointRange.ofHex piece).hi < point

instance (points : List Nat) (row : List Char) : Decidable (RowLeavesOut points row) :=
  inferInstanceAs (Decidable (∀ piece ∈ piecesBy ' ' row, ∀ point ∈ points, _ ∨ _))

/--
The characters of a row are those that its literal spells, so that none of them has to be
read out of its bytes.
-/
theorem rowLeavesOut_ofList
    {row : List Char}
    (leavesOut : RowLeavesOut points row) :
    RowLeavesOut points (String.ofList row).toList := by
  rwa [String.toList_ofList]

/-- What every row of the table leaves out is not in the set. -/
theorem contains_eq_false_of_rows
    (leaveOut : ∀ row ∈ rows, RowLeavesOut points row.toList)
    (isPoint : c.toNat ∈ points) :
    (ofHexRanges rows).contains c = false := by
  rw [Bool.eq_false_iff]
  intro contained
  obtain ⟨range, isRange, fromLow, toHigh⟩ := exists_range_of_search contained
  rw [ofHexRanges, List.mem_toArray, List.mem_flatMap] at isRange
  obtain ⟨row, isRow, isRange⟩ := isRange
  obtain ⟨piece, isPiece, rfl⟩ := List.mem_map.mp isRange
  have leftOut := leaveOut row isRow piece isPiece c.toNat isPoint
  omega

end CodePointSet

namespace CaseMap

/-- The entries of a table whose rows are spelled out. -/
def entriesOf (rows : List (List Char)) : List CaseEntry :=
  rows.flatMap fun row => (piecesBy ' ' row).map CaseEntry.ofHex

theorem ofHexPairs_spelled
    {rows : List String}
    {spelled : List (List Char)}
    (spell : rows.map String.toList = spelled) :
    ofHexPairs rows = ⟨(entriesOf spelled).toArray⟩ := by
  rw [← spell, ofHexPairs, entriesOf, List.flatMap_map]

theorem exists_entry_of_search?
    {entries : Array CaseEntry}
    {point low high : Nat}
    {form : List Char}
    (found : search? entries point low high = some form) :
    ∃ entry ∈ entries, entry.point = point ∧ entry.form = form := by
  fun_induction search? entries point low high with
  | case1 low high someLeft middle outside =>
      contradiction
  | case2 low high someLeft middle entry here lower inductionHypothesis =>
      exact inductionHypothesis found
  | case3 low high someLeft middle entry here notLower higher inductionHypothesis =>
      exact inductionHypothesis found
  | case4 low high someLeft middle entry here notLower notHigher =>
      exact ⟨entry, Array.mem_of_getElem? here, by omega, Option.some.inj found⟩
  | case5 low high noneLeft =>
      contradiction

/-- A map leaves a character as it is or sends it to the form of one of its entries. -/
theorem apply_eq_or_entry (entries : List CaseEntry) (c : Char) :
    (CaseMap.mk entries.toArray).apply c = [c] ∨
      ∃ entry ∈ entries,
        entry.point = c.toNat ∧ (CaseMap.mk entries.toArray).apply c = entry.form := by
  cases found : search? entries.toArray c.toNat 0 entries.toArray.size with
  | none =>
      left
      rw [apply, found, Option.getD_none]
  | some form =>
      right
      obtain ⟨entry, isEntry, isPoint, rfl⟩ := exists_entry_of_search? found
      refine ⟨entry, by simpa using isEntry, isPoint, ?_⟩
      rw [apply, found, Option.getD_some]

end CaseMap

/-- A row in front of rows that are spelled out. -/
theorem spell_cons
    {row : List Char}
    {rows : List String}
    {spelled : List (List Char)}
    (spell : rows.map String.toList = spelled) :
    (String.ofList row :: rows).map String.toList = row :: spelled := by
  rw [List.map_cons, String.toList_ofList, spell]

open CodePointSet

/-- The line breaks beyond ASCII: the next line, and the separators of lines and paragraphs. -/
def widerLineBreaks : List Nat :=
  [0x85, 0x2028, 0x2029]

variable {c : Char}

theorem alphabetic_leavesOut_lineBreaks (isBreak : c.toNat ∈ widerLineBreaks) :
    Table.alphabetic.contains c = false := by
  apply contains_eq_false_of_rows _ isBreak
  repeat
    refine List.forall_mem_cons.mpr ⟨rowLeavesOut_ofList (by decide +kernel), ?_⟩
  exact List.forall_mem_nil _

theorem numeric_leavesOut_lineBreaks (isBreak : c.toNat ∈ widerLineBreaks) :
    Table.numeric.contains c = false := by
  apply contains_eq_false_of_rows _ isBreak
  repeat
    refine List.forall_mem_cons.mpr ⟨rowLeavesOut_ofList (by decide +kernel), ?_⟩
  exact List.forall_mem_nil _

theorem isWordChar_eq_false_of_mem_widerLineBreaks (isBreak : c.toNat ∈ widerLineBreaks) :
    isWordChar c = false := by
  have beyond : ∀ point ∈ widerLineBreaks, ¬ point < 0x80 ∧ point ≠ 95 := by
    decide
  obtain ⟨notAscii, notUnderscore⟩ := beyond c.toNat isBreak
  have isOther : c ≠ '_' := by
    rintro rfl
    exact notUnderscore rfl
  simp [isWordChar, isAlphanumeric, isAlphabetic, isNumeric, isAscii, notAscii, isOther,
    alphabetic_leavesOut_lineBreaks isBreak, numeric_leavesOut_lineBreaks isBreak]

/-- No character of a word ends a line. -/
theorem isLineBreak_of_isWordChar (isWord : isWordChar c = true) :
    isLineBreak c = false := by
  rw [Bool.eq_false_iff]
  intro isBreak
  have notWider : c.toNat ∉ widerLineBreaks := by
    intro isWider
    rw [isWordChar_eq_false_of_mem_widerLineBreaks isWider] at isWord
    contradiction
  simp only [isLineBreak, Bool.or_eq_true, beq_iff_eq] at isBreak
  rcases isBreak with (((((rfl | rfl) | rfl) | rfl) | rfl) | rfl) | rfl
  -- The breaks of ASCII are no word characters without any table.
  all_goals first | exact absurd isWord (by decide) | exact notWider (by decide)

end ChordEditor.Text
