import Mathlib.Algebra.BigOperators.Group.List.Basic
import Mathlib.Algebra.Order.Floor.Div
import ChordEditor.Commands.Line
import ChordEditor.Proofs.Commands.Shifting

namespace ChordEditor.Commands

/-!
# Lines indented anew

Indenting a text anew gives each line spaces for its indentation and leaves what is behind
it.  How many spaces depends on the width of the line's own indentation and on the unit
that was found in the whole text, so the lines are changed one by one (`retab_runOn`).

The new widths are multiples of the tab width, which grow with the former ones, and a unit
of more than one column becomes the tab width.  Found anew in the new text, the unit may be
another one: it is the tab width, or no unit is found, exactly if nothing changes any more
(`map_retabbed_eq_iff`).
-/

/-- A line with spaces for its indentation, by the unit of the text that it is from. -/
def retabbed (tabWidth : Nat) (unit : Option Nat) (line : List Char) : List Char :=
  List.replicate (retabbedWidth tabWidth unit (Text.indentWidth line tabWidth)) ' ' ++
    Text.trimStart line

section Widths

variable
  {tabWidth unit width depth : Nat}
  {found : Option Nat}

theorem divUp_le_iff
    {dividend divisor quotient : Nat}
    (someDivisor : 0 < divisor) :
    divUp dividend divisor ≤ quotient ↔ dividend ≤ divisor * quotient := by
  rw [divUp, ← Nat.ceilDiv_eq_add_pred_div]
  exact ceilDiv_le_iff_le_mul someDivisor

theorem divUp_mul
    {divisor : Nat}
    (someDivisor : 0 < divisor)
    (quotient : Nat) :
    divUp (quotient * divisor) divisor = quotient := by
  apply Nat.le_antisymm
  · rw [divUp_le_iff someDivisor, Nat.mul_comm]
  · have covers := (divUp_le_iff someDivisor).mp (Nat.le_refl (divUp (quotient * divisor) divisor))
    rw [Nat.mul_comm quotient] at covers ⊢
    exact Nat.le_of_mul_le_mul_left covers someDivisor

theorem divUp_mono
    {first second : Nat}
    (ordered : first ≤ second)
    (divisor : Nat) :
    divUp first divisor ≤ divUp second divisor :=
  Nat.div_le_div_right (Nat.sub_le_sub_right (Nat.add_le_add_right ordered divisor) 1)

/-- Columns that are not rescaled are rounded up. -/
theorem retabbedWidth_of_not_lt (narrow : ∀ unit ∈ found, unit ≤ 1) :
    retabbedWidth tabWidth found width = divUp width tabWidth * tabWidth := by
  cases found with
  | none =>
      rfl
  | some unit =>
      have notWide : ¬ 1 < unit := Nat.not_lt_of_le (narrow unit rfl)
      simp only [retabbedWidth, gt_iff_lt, if_neg notWide]

theorem retabbedWidth_of_lt (wide : 1 < unit) :
    retabbedWidth tabWidth (some unit) width =
      divUp (divUp (width * tabWidth) unit) tabWidth * tabWidth := by
  simp only [retabbedWidth, gt_iff_lt, if_pos wide]

/-- Wider indentations do not become narrower than others. -/
theorem retabbedWidth_mono
    {first second : Nat}
    (ordered : first ≤ second)
    (tabWidth : Nat)
    (found : Option Nat) :
    retabbedWidth tabWidth found first ≤ retabbedWidth tabWidth found second := by
  unfold retabbedWidth
  apply Nat.mul_le_mul_right
  apply divUp_mono
  cases found with
  | none =>
      exact ordered
  | some unit =>
      dsimp only
      split
      · exact divUp_mono (Nat.mul_le_mul_right tabWidth ordered) unit
      · exact ordered

/-- There is an indentation exactly if there was one. -/
theorem retabbedWidth_eq_zero_iff (tabs : 0 < tabWidth) :
    retabbedWidth tabWidth found width = 0 ↔ width = 0 := by
  have scaled {dividend divisor : Nat} (someDivisor : 0 < divisor) :
      divUp dividend divisor = 0 ↔ dividend = 0 := by
    rw [← Nat.le_zero, divUp_le_iff someDivisor, Nat.mul_zero, Nat.le_zero]
  by_cases wide : ∃ unit, found = some unit ∧ 1 < unit
  · obtain ⟨unit, rfl, wide⟩ := wide
    rw [retabbedWidth_of_lt wide, Nat.mul_eq_zero, scaled tabs,
      scaled (Nat.lt_trans Nat.zero_lt_one wide), Nat.mul_eq_zero]
    omega
  · have narrow : ∀ unit ∈ found, unit ≤ 1 := by
      intro unit isFound
      exact Nat.le_of_not_lt fun isWide => wide ⟨unit, isFound, isWide⟩
    rw [retabbedWidth_of_not_lt narrow, Nat.mul_eq_zero, scaled tabs]
    omega

/-- A unit of more than one column becomes the tab width. -/
theorem retabbedWidth_mul
    (tabs : 0 < tabWidth)
    (wide : 1 < unit)
    (depth : Nat) :
    retabbedWidth tabWidth (some unit) (depth * unit) = depth * tabWidth := by
  have reordered : depth * unit * tabWidth = depth * tabWidth * unit := by
    rw [Nat.mul_assoc, Nat.mul_comm unit, Nat.mul_assoc]
  rw [retabbedWidth_of_lt wide, reordered, divUp_mul (Nat.lt_trans Nat.zero_lt_one wide),
    divUp_mul tabs]

/-- Rounding up keeps no depth but zero and one, unless a tab is one column. -/
theorem divUp_eq_self_iff (tabs : 0 < tabWidth) :
    divUp depth tabWidth = depth ↔ tabWidth = 1 ∨ depth ≤ 1 := by
  constructor
  · intro same
    apply Classical.byContradiction
    intro deep
    obtain ⟨wideTabs, someDepth⟩ : 2 ≤ tabWidth ∧ 2 ≤ depth := by
      omega
    have less : divUp depth tabWidth ≤ depth - 1 := by
      rw [divUp_le_iff tabs]
      have doubled : 2 * (depth - 1) ≤ tabWidth * (depth - 1) :=
        Nat.mul_le_mul_right _ wideTabs
      omega
    omega
  · rintro (rfl | shallow)
    · exact Nat.div_one depth
    · have isDepth : depth = 0 ∨ depth = 1 := by
        omega
      rcases isDepth with rfl | rfl
      · have same := divUp_mul tabs 0
        rwa [Nat.zero_mul] at same
      · show (1 + tabWidth - 1) / tabWidth = 1
        rw [Nat.add_sub_cancel_left, Nat.div_self tabs]

/-- Lines keep their depth if the unit has more than one column, or as far as they are rounded. -/
theorem retabbedWidth_mul_eq_iff
    (tabs : 0 < tabWidth)
    (someUnit : 0 < unit) :
    retabbedWidth tabWidth (some unit) (depth * unit) = depth * tabWidth ↔
      1 < unit ∨ tabWidth = 1 ∨ depth ≤ 1 := by
  by_cases wide : 1 < unit
  · exact iff_of_true (retabbedWidth_mul tabs wide depth) (.inl wide)
  · obtain rfl : unit = 1 := by
      omega
    rw [retabbedWidth_of_not_lt (by simp), Nat.mul_one, Nat.mul_left_inj (Nat.ne_of_gt tabs),
      divUp_eq_self_iff tabs]
    simp

/-- A width in tabs stays if the unit found is the tab width, or if there is none. -/
theorem retabbedWidth_tabs
    (tabs : 0 < tabWidth)
    (isTab : ∀ unit ∈ found, unit = tabWidth)
    (depth : Nat) :
    retabbedWidth tabWidth found (depth * tabWidth) = depth * tabWidth := by
  cases found with
  | none =>
      rw [retabbedWidth_of_not_lt (by simp), divUp_mul tabs]
  | some unit =>
      obtain rfl := isTab unit rfl
      rw [retabbedWidth_mul_eq_iff tabs tabs]
      omega

/-- An indentation as wide as a unit of several tabs becomes narrower. -/
theorem retabbedWidth_lt
    {count : Nat}
    (tabs : 0 < tabWidth)
    (several : 1 < count)
    (asWide : count ≤ depth) :
    retabbedWidth tabWidth (some (count * tabWidth)) (depth * tabWidth) < depth * tabWidth := by
  have wide : 1 < count * tabWidth :=
    Nat.lt_of_lt_of_le several (Nat.le_mul_of_pos_right count tabs)
  have someUnit := Nat.lt_trans Nat.zero_lt_one wide
  have less : depth ≤ count * (depth - 1) := by
    have doubled : 2 * (depth - 1) ≤ count * (depth - 1) := Nat.mul_le_mul_right _ several
    omega
  rw [retabbedWidth_of_lt wide]
  have atMost : divUp (divUp (depth * tabWidth * tabWidth) (count * tabWidth)) tabWidth ≤
      depth - 1 := by
    rw [divUp_le_iff tabs, divUp_le_iff someUnit]
    calc
      depth * tabWidth * tabWidth ≤ count * (depth - 1) * tabWidth * tabWidth :=
        Nat.mul_le_mul_right _ (Nat.mul_le_mul_right _ less)
      _ = count * tabWidth * (tabWidth * (depth - 1)) := by
        simp only [Nat.mul_assoc, Nat.mul_comm, Nat.mul_left_comm]
  exact Nat.mul_lt_mul_of_pos_right (by omega) tabs

end Widths

section Detection

variable
  {number step : Nat}
  {numbers widths : List Nat}

/-- A step leads from the width of one line to that of another one. -/
theorem mem_steps (isStep : step ∈ steps widths) :
    0 < step ∧ ∃ narrow ∈ widths, narrow + step ∈ widths := by
  fun_induction steps widths with
  | case1 first second rest difference noStep inductionHypothesis =>
      obtain ⟨someStep, narrow, isNarrow, isWide⟩ := inductionHypothesis isStep
      exact
        ⟨someStep, narrow, List.mem_cons_of_mem _ isNarrow, List.mem_cons_of_mem _ isWide⟩
  | case2 first second rest difference someStep inductionHypothesis =>
      rcases List.mem_cons.mp isStep with rfl | isLater
      · refine ⟨Nat.pos_of_ne_zero someStep, min first second, ?_, ?_⟩
        · rcases Nat.le_total first second with ordered | ordered <;> simp [ordered]
        · have isWide :
              min first second + ((first - second) + (second - first)) = max first second := by
            omega
          show min first second + ((first - second) + (second - first)) ∈ _
          rw [isWide]
          rcases Nat.le_total first second with ordered | ordered <;> simp [ordered]
      · obtain ⟨positive, narrow, isNarrow, isWide⟩ := inductionHypothesis isLater
        exact
          ⟨positive, narrow, List.mem_cons_of_mem _ isNarrow, List.mem_cons_of_mem _ isWide⟩
  | case3 =>
      contradiction

/-- Steps between widths that are scaled are scaled. -/
theorem steps_map_mul
    {scale : Nat}
    (someScale : 0 < scale)
    (widths : List Nat) :
    steps (widths.map (· * scale)) = (steps widths).map (· * scale) := by
  have scaled (first second : Nat) :
      first * scale - second * scale + (second * scale - first * scale) =
        (first - second + (second - first)) * scale := by
    rw [Nat.add_mul, Nat.sub_mul, Nat.sub_mul]
  fun_induction steps widths with
  | case1 first second rest difference noStep inductionHypothesis =>
      have noScaled : difference * scale = 0 := by
        rw [noStep, Nat.zero_mul]
      rw [← inductionHypothesis]
      simp only [List.map_cons, steps, scaled]
      exact if_pos noScaled
  | case2 first second rest difference someStep inductionHypothesis =>
      have someScaled : difference * scale ≠ 0 :=
        Nat.mul_ne_zero someStep (Nat.ne_of_gt someScale)
      rw [List.map_cons (l := steps _), ← inductionHypothesis]
      simp only [List.map_cons, steps, scaled]
      exact if_neg someScaled
  | case3 widths notTwo =>
      cases widths with
      | nil => rfl
      | cons width rest =>
          cases rest with
          | nil => rfl
          | cons second more => exact absurd rfl (notTwo width second more)

/-- Where there is no step between widths, there is none however they are changed. -/
theorem steps_map_eq_nil
    (change : Nat → Nat)
    (noStep : steps widths = []) :
    steps (widths.map change) = [] := by
  fun_induction steps widths with
  | case1 first second rest difference same inductionHypothesis =>
      have equal : first = second := by
        omega
      simp only [List.map_cons, equal, steps, Nat.sub_self, Nat.add_zero, if_true]
      exact inductionHypothesis noStep
  | case2 =>
      contradiction
  | case3 widths notTwo =>
      cases widths with
      | nil => rfl
      | cons width rest =>
          cases rest with
          | nil => rfl
          | cons second more => exact absurd rfl (notTwo width second more)

theorem mem_of_mostFrequent? (isFound : mostFrequent? numbers = some number) :
    number ∈ numbers :=
  List.mem_of_find?_eq_some isFound

/-- Of some numbers one is the most frequent. -/
theorem mostFrequent?_eq_none_iff : mostFrequent? numbers = none ↔ numbers = [] := by
  constructor
  · intro noneFound
    apply Classical.byContradiction
    intro someNumber
    have someCount : (numbers.map fun number => numbers.count number) ≠ [] := by
      simpa using someNumber
    obtain ⟨most, isMost⟩ := Option.ne_none_iff_exists'.mp (mt List.max?_eq_none_iff.mp someCount)
    obtain ⟨number, isNumber, isCount⟩ := List.mem_map.mp (List.max?_mem isMost)
    have notMost := List.find?_eq_none.mp noneFound number isNumber
    simp [isMost, isCount] at notMost
  · rintro rfl
    rfl

/-- The most frequent number is scaled with the numbers. -/
theorem mostFrequent?_map_mul
    {scale : Nat}
    (someScale : 0 < scale)
    (numbers : List Nat) :
    mostFrequent? (numbers.map (· * scale)) = (mostFrequent? numbers).map (· * scale) := by
  have injective : Function.Injective (· * scale) :=
    fun _ _ => Nat.eq_of_mul_eq_mul_right someScale
  have counted (number : Nat) :
      (numbers.map (· * scale)).count (number * scale) = numbers.count number :=
    List.count_map_of_injective numbers (· * scale) injective number
  unfold mostFrequent?
  rw [List.find?_map, List.map_map]
  simp only [Function.comp_def, counted]

/-- The most frequent step between widths is scaled with the widths. -/
theorem mostFrequent?_steps_map_mul
    {scale : Nat}
    (someScale : 0 < scale)
    (widths : List Nat) :
    mostFrequent? (steps (widths.map (· * scale))) =
      (mostFrequent? (steps widths)).map (· * scale) := by
  rw [steps_map_mul someScale, mostFrequent?_map_mul someScale]

end Detection

section Lines

variable
  {tabWidth unit : Nat}
  {found : Option Nat}
  {line : List Char}
  {lines : List (List Char)}

theorem leadingBlank_trimStart (line : List Char) :
    Text.leadingBlank (Text.trimStart line) = [] := by
  unfold Text.leadingBlank Text.trimStart
  induction line with
  | nil =>
      rfl
  | cons c rest inductionHypothesis =>
      by_cases blank : Text.isBlank c = true
      · rw [List.dropWhile_cons_of_pos blank]
        exact inductionHypothesis
      · rw [List.dropWhile_cons_of_neg blank, List.takeWhile_cons_of_neg blank]

@[simp]
theorem leadingBlank_retabbed :
    Text.leadingBlank (retabbed tabWidth found line) =
      List.replicate (retabbedWidth tabWidth found (Text.indentWidth line tabWidth)) ' ' := by
  rw [retabbed, leadingBlank_spaces_append, leadingBlank_trimStart, List.append_nil]

@[simp]
theorem trimStart_retabbed :
    Text.trimStart (retabbed tabWidth found line) = Text.trimStart line := by
  have alone := Text.leadingBlank_append_trimStart (Text.trimStart line)
  rw [leadingBlank_trimStart, List.nil_append] at alone
  have behind :
      Text.trimStart (retabbed tabWidth found line) = Text.trimStart (Text.trimStart line) :=
    List.dropWhile_append_of_pos fun _ => isBlank_of_space
  rw [behind, alone]

theorem indentWidth_eq_sum (line : List Char) (tabWidth : Nat) :
    Text.indentWidth line tabWidth =
      ((Text.leadingBlank line).map fun c => if c = '\t' then tabWidth else 1).sum := by
  rw [List.sum_eq_foldl, List.foldl_map]
  rfl

/-- Spaces take a column each. -/
theorem indentWidth_of_spaces
    {count : Nat}
    (spaces : Text.leadingBlank line = List.replicate count ' ')
    (tabWidth : Nat) :
    Text.indentWidth line tabWidth = count := by
  rw [indentWidth_eq_sum, spaces, List.map_replicate, List.sum_replicate_nat, if_neg (by decide),
    Nat.mul_one]

@[simp]
theorem indentWidth_retabbed :
    Text.indentWidth (retabbed tabWidth found line) tabWidth =
      retabbedWidth tabWidth found (Text.indentWidth line tabWidth) :=
  indentWidth_of_spaces leadingBlank_retabbed tabWidth

/-- A line without an indentation is one whose indentation takes no columns. -/
theorem indentWidth_eq_zero_iff (tabs : 0 < tabWidth) :
    Text.indentWidth line tabWidth = 0 ↔ Text.leadingBlank line = [] := by
  rw [indentWidth_eq_sum]
  constructor
  · intro noColumn
    have covers :=
      List.length_le_sum_of_one_le
        ((Text.leadingBlank line).map fun c => if c = '\t' then tabWidth else 1) <| by
          intro width isWidth
          obtain ⟨c, _, rfl⟩ := List.mem_map.mp isWidth
          split <;> omega
    rw [noColumn, List.length_map, Nat.le_zero] at covers
    exact List.length_eq_zero_iff.mp covers
  · intro noIndent
    rw [noIndent]
    rfl

/-- Lines with something in them are those that have been ones. -/
theorem retabbed_eq_nil_iff (tabs : 0 < tabWidth) :
    retabbed tabWidth found line = [] ↔ line = [] := by
  rw [retabbed, List.append_eq_nil_iff, List.replicate_eq_nil_iff,
    retabbedWidth_eq_zero_iff tabs, indentWidth_eq_zero_iff tabs, ← List.append_eq_nil_iff,
    Text.leadingBlank_append_trimStart]

/-- In an empty line there is nothing to indent. -/
theorem retabbed_nil : retabbed tabWidth found [] = [] := by
  rcases Nat.eq_zero_or_pos tabWidth with rfl | tabs
  · unfold retabbed retabbedWidth
    rw [Nat.mul_zero]
    rfl
  · exact (retabbed_eq_nil_iff tabs).mpr rfl

/-- The indentation that a line gets is some tabs of spaces. -/
theorem exists_leadingBlank_retabbed :
    ∃ depth,
      Text.leadingBlank (retabbed tabWidth found line) =
        List.replicate (depth * tabWidth) ' ' :=
  ⟨_, leadingBlank_retabbed⟩

/-- A line stays exactly if its indentation does. -/
theorem retabbed_eq_iff :
    retabbed tabWidth found line = line ↔
      Text.leadingBlank (retabbed tabWidth found line) = Text.leadingBlank line := by
  have whole := Text.leadingBlank_append_trimStart line
  rw [leadingBlank_retabbed]
  constructor
  · intro same
    rw [← leadingBlank_retabbed, same]
  · intro same
    rw [retabbed, same, whole]

theorem map_retabbed_eq_self_iff :
    lines.map (retabbed tabWidth found) = lines ↔
      ∀ line ∈ lines, retabbed tabWidth found line = line := by
  conv_lhs => rw [← List.map_id lines, List.map_map]
  exact List.map_inj_left

/-- The widths of the indentations of the lines that have something in them. -/
def writtenWidths (tabWidth : Nat) (lines : List (List Char)) : List Nat :=
  (lines.filter fun line => !line.isEmpty).map fun line => Text.indentWidth line tabWidth

theorem indentUnit?_eq (tabWidth : Nat) (lines : List (List Char)) :
    indentUnit? tabWidth lines = mostFrequent? (steps (writtenWidths tabWidth lines)) :=
  rfl

theorem mem_writtenWidths
    {width : Nat}
    (isWidth : width ∈ writtenWidths tabWidth lines) :
    ∃ line ∈ lines, line ≠ [] ∧ Text.indentWidth line tabWidth = width := by
  obtain ⟨line, isWritten, rfl⟩ := List.mem_map.mp isWidth
  obtain ⟨isLine, someText⟩ := List.mem_filter.mp isWritten
  exact ⟨line, isLine, by simpa using someText, rfl⟩

/-- The widths in a text that is indented anew. -/
theorem writtenWidths_map_retabbed
    (tabs : 0 < tabWidth)
    (found : Option Nat)
    (lines : List (List Char)) :
    writtenWidths tabWidth (lines.map (retabbed tabWidth found)) =
      (writtenWidths tabWidth lines).map (retabbedWidth tabWidth found) := by
  have sameEmpty (line : List Char) :
      (retabbed tabWidth found line).isEmpty = line.isEmpty := by
    rw [Bool.eq_iff_iff, List.isEmpty_iff, List.isEmpty_iff, retabbed_eq_nil_iff tabs]
  unfold writtenWidths
  rw [List.filter_map, List.map_map, List.map_map]
  simp only [Function.comp_def, sameEmpty, indentWidth_retabbed]

/-- The unit that is found has columns, and is a step between two lines. -/
theorem exists_step_of_indentUnit?
    (isFound : indentUnit? tabWidth lines = some unit) :
    0 < unit ∧
      ∃ narrow ∈ lines, ∃ wide ∈ lines,
        Text.indentWidth narrow tabWidth + unit = Text.indentWidth wide tabWidth := by
  rw [indentUnit?_eq] at isFound
  obtain ⟨someUnit, width, isNarrow, isWide⟩ := mem_steps (mem_of_mostFrequent? isFound)
  obtain ⟨narrow, isNarrowLine, _, rfl⟩ := mem_writtenWidths isNarrow
  obtain ⟨wide, isWideLine, _, sum⟩ := mem_writtenWidths isWide
  exact ⟨someUnit, narrow, isNarrowLine, wide, isWideLine, sum.symm⟩

/--
Lines that are indented by tabs of spaces stay as they are exactly if the unit found in
them is the tab width, or none is found.
-/
theorem map_retabbed_eq_iff
    (tabs : 0 < tabWidth)
    (inTabs :
      ∀ line ∈ lines, ∃ depth, Text.leadingBlank line = List.replicate (depth * tabWidth) ' ') :
    lines.map (retabbed tabWidth (indentUnit? tabWidth lines)) = lines ↔
      ∀ unit ∈ indentUnit? tabWidth lines, unit = tabWidth := by
  constructor
  · intro same unit isFound
    apply Classical.byContradiction
    intro notTab
    rw [isFound] at same
    obtain ⟨someUnit, narrow, isNarrow, wide, isWide, sum⟩ := exists_step_of_indentUnit? isFound
    obtain ⟨lower, narrowSpaces⟩ := inTabs narrow isNarrow
    obtain ⟨depth, wideSpaces⟩ := inTabs wide isWide
    rw [indentWidth_of_spaces narrowSpaces, indentWidth_of_spaces wideSpaces] at sum
    -- The unit is several tabs, and no more than what the wider one of two lines is indented by.
    obtain rfl : unit = (depth - lower) * tabWidth := by
      rw [Nat.sub_mul]
      omega
    have several : 1 < depth - lower := by
      rcases Nat.lt_or_ge 1 (depth - lower) with several | few
      · exact several
      · have isFew : depth - lower = 0 ∨ depth - lower = 1 := by
          omega
        rcases isFew with none | one
        · simp [none] at someUnit
        · simp [one] at notTab
    have narrower := retabbedWidth_lt tabs several (Nat.sub_le depth lower)
    have stays := map_retabbed_eq_self_iff.mp same wide isWide
    have sameWidth := congrArg (Text.indentWidth · tabWidth) stays
    simp only [indentWidth_retabbed, indentWidth_of_spaces wideSpaces] at sameWidth
    omega
  · intro isTab
    rw [map_retabbed_eq_self_iff]
    intro line isLine
    obtain ⟨depth, spaces⟩ := inTabs line isLine
    rw [retabbed_eq_iff, leadingBlank_retabbed, indentWidth_of_spaces spaces, spaces,
      retabbedWidth_tabs tabs isTab]

/-- Where the unit divides the widths of all lines but empty ones, the tab width is found next. -/
theorem indentUnit?_retabbed_of_dvd
    (tabs : 0 < tabWidth)
    (wide : 1 < unit)
    (isFound : indentUnit? tabWidth lines = some unit)
    (divides : ∀ line ∈ lines, line ≠ [] → unit ∣ Text.indentWidth line tabWidth) :
    indentUnit? tabWidth (lines.map (retabbed tabWidth (some unit))) = some tabWidth := by
  have someUnit := Nat.lt_trans Nat.zero_lt_one wide
  -- The lines have the same depths before and after, first by the unit and then by tabs.
  let depths := (writtenWidths tabWidth lines).map (· / unit)
  have widths : writtenWidths tabWidth lines = depths.map (· * unit) := by
    rw [List.map_map]
    conv_lhs => rw [← List.map_id (writtenWidths tabWidth lines)]
    apply List.map_congr_left
    intro width isWidth
    obtain ⟨line, isLine, someText, rfl⟩ := mem_writtenWidths isWidth
    exact (Nat.div_mul_cancel (divides line isLine someText)).symm
  have newWidths :
      writtenWidths tabWidth (lines.map (retabbed tabWidth (some unit))) =
        depths.map (· * tabWidth) := by
    rw [writtenWidths_map_retabbed tabs, widths, List.map_map]
    apply List.map_congr_left
    intro depth _
    exact retabbedWidth_mul tabs wide depth
  rw [indentUnit?_eq, widths, mostFrequent?_steps_map_mul someUnit] at isFound
  obtain ⟨most, isMost, same⟩ := Option.map_eq_some_iff.mp isFound
  obtain rfl : most = 1 :=
    Nat.eq_of_mul_eq_mul_right someUnit (same.trans (Nat.one_mul unit).symm)
  rw [indentUnit?_eq, newWidths, mostFrequent?_steps_map_mul tabs, isMost, Option.map_some,
    Nat.one_mul]

/-- Where there is no unit, none is found next. -/
theorem indentUnit?_retabbed_of_none
    (tabs : 0 < tabWidth)
    (notFound : indentUnit? tabWidth lines = none) :
    indentUnit? tabWidth (lines.map (retabbed tabWidth none)) = none := by
  rw [indentUnit?_eq, mostFrequent?_eq_none_iff] at notFound ⊢
  rw [writtenWidths_map_retabbed tabs]
  exact steps_map_eq_nil _ notFound

/-- The unit found next is the tab width, if the one before divides all widths, or none is. -/
theorem unit_eq_tabWidth_of_dvd
    (tabs : 0 < tabWidth)
    (divides :
      ∀ unit ∈ indentUnit? tabWidth lines,
        1 < unit ∧ ∀ line ∈ lines, line ≠ [] → unit ∣ Text.indentWidth line tabWidth) :
    ∀ unit ∈ indentUnit? tabWidth
        (lines.map (retabbed tabWidth (indentUnit? tabWidth lines))),
      unit = tabWidth := by
  cases isFound : indentUnit? tabWidth lines with
  | none =>
      rw [indentUnit?_retabbed_of_none tabs isFound]
      simp
  | some unit =>
      obtain ⟨wide, dividesAll⟩ := divides unit isFound
      rw [indentUnit?_retabbed_of_dvd tabs wide isFound dividesAll]
      simp

/-- No line has changed exactly if the lines are the same. -/
theorem countP_retabbed_eq_zero_iff :
    (lines.countP fun line => retabbed tabWidth found line ≠ line) = 0 ↔
      lines.map (retabbed tabWidth found) = lines := by
  rw [List.countP_eq_zero, map_retabbed_eq_self_iff]
  simp

end Lines

section Run

open CommandM

/-- What is told when lines have been indented anew. -/
def retabMessage (count : Nat) : String :=
  "Retabbed " ++ toString count ++ " line" ++ pluralEnding count

variable
  {editor : Editor}
  {earlier later own : List (List Char)}
  {line : List Char}

/-- One turn changes its own line, and says whether that became another one. -/
theorem retabLine_runOn
    (hasLines : editor.buffer.HasLines (earlier ++ line :: later))
    (found : Option Nat) :
    ∃ changed,
      (retabLine found earlier.length
            (Text.indentWidth line editor.settings.tabWidth)).runOn editor =
          (.ok (decide (retabbed editor.settings.tabWidth found line ≠ line)),
            { editor with buffer := changed }) ∧
        changed.HasLines
          (earlier ++ retabbed editor.settings.tabWidth found line :: later) := by
  have sameIndent := @retabbed_eq_iff editor.settings.tabWidth found line
  rw [leadingBlank_retabbed] at sameIndent
  unfold retabLine
  rw [runOn_get_bind]
  dsimp only
  rw [hasLines.lineText_eq]
  by_cases same : retabbed editor.settings.tabWidth found line = line
  · rw [if_pos (sameIndent.mp same), same]
    refine ⟨editor.buffer, ?_, hasLines⟩
    rw [decide_eq_false (not_not_intro rfl)]
    rfl
  · rw [if_neg (mt sameIndent.mpr same), decide_eq_true same]
    rw [← Text.leadingBlank_append_trimStart line] at hasLines
    obtain ⟨changed, replaced, changedHas⟩ :=
      hasLines.exists_replaced_front
        (hasNoBreak_spaces
          (retabbedWidth editor.settings.tabWidth found
            (Text.indentWidth line editor.settings.tabWidth)))
    exact ⟨changed, runOn_bind_of_ok (runOn_replace replaced), changedHas⟩

/-- The turns from a line on change each of the lines that are left, by its former width. -/
theorem retabFrom_runOn
    (hasLines : editor.buffer.HasLines (earlier ++ later))
    (found : Option Nat) :
    ∃ changed,
      (retabFrom found earlier.length
            (later.map fun line => Text.indentWidth line editor.settings.tabWidth)).runOn
          editor =
          (.ok
              (later.countP fun line => retabbed editor.settings.tabWidth found line ≠ line),
            { editor with buffer := changed }) ∧
        changed.HasLines (earlier ++ later.map (retabbed editor.settings.tabWidth found)) := by
  -- The lines that are left are still the former ones, so the widths taken before are theirs.
  induction later generalizing editor earlier with
  | nil =>
      exact ⟨editor.buffer, rfl, hasLines⟩
  | cons line later inductionHypothesis =>
      obtain ⟨between, turn, betweenHas⟩ := retabLine_runOn hasLines found
      rw [List.append_cons] at betweenHas
      obtain ⟨changed, others, changedHas⟩ :=
        @inductionHypothesis { editor with buffer := between } _ betweenHas
      rw [← List.append_cons] at changedHas
      refine ⟨changed, ?_, changedHas⟩
      rw [List.length_append, List.length_singleton] at others
      rw [List.map_cons, retabFrom, runOn_bind_of_ok turn, runOn_bind_of_ok others,
        List.countP_cons]
      rfl

/-- All lines are indented anew by the unit found in them; those that changed are counted. -/
theorem retab_runOn (hasLines : editor.buffer.HasLines own) :
    ∃ changed,
      retab.runOn editor =
          (.ok
              (own.countP fun line =>
                retabbed editor.settings.tabWidth
                  (indentUnit? editor.settings.tabWidth own) line ≠ line),
            { editor with buffer := changed }) ∧
        changed.HasLines
          (own.map
            (retabbed editor.settings.tabWidth
              (indentUnit? editor.settings.tabWidth own))) := by
  have allLines : editor.buffer.HasLines ([] ++ own) := hasLines
  obtain ⟨changed, ended, changedHas⟩ :=
    retabFrom_runOn allLines (indentUnit? editor.settings.tabWidth own)
  refine ⟨changed, ?_, changedHas⟩
  unfold retab
  rw [runOn_get_bind]
  dsimp only
  rw [hasLines.lineTexts_eq]
  exact ended

/-- The submitted command tells how many lines have changed. -/
theorem runLine_retab_runOn (hasLines : editor.buffer.HasLines own) :
    ∃ changed,
      (runLine .retab).runOn editor =
          (.ok (),
            ({ editor with buffer := changed }).tell
              (retabMessage
                (own.countP fun line =>
                  retabbed editor.settings.tabWidth
                    (indentUnit? editor.settings.tabWidth own) line ≠ line))) ∧
        changed.HasLines
          (own.map
            (retabbed editor.settings.tabWidth
              (indentUnit? editor.settings.tabWidth own))) := by
  obtain ⟨changed, ended, changedHas⟩ := retab_runOn hasLines
  exact ⟨changed, runOn_bind_of_ok ended, changedHas⟩

end Run

end ChordEditor.Commands
