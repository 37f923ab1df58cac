import ChordEditor.Commands.Surround
import ChordEditor.Proofs.Text.WellNested

namespace ChordEditor.Commands

/-!
# The brackets around a column

The pair of brackets around a column is looked for in two scans that count how many partners
are still to be found.  A scan passes over a well nested text as if it were not there
(`unmatchedClosing?_append`), and what it has passed over when it stops is well nested
(`closesAll_of_unmatchedClosing?`).  The scan to the left is the one to the right with the
brackets turned round, so nothing has to be shown of it anew.

The pair that is found is the innermost one around the column, and one is found if there is
any (`findEnclosing?_finds_innermost`).
-/

variable
  {opening closing : Char}
  {chars text ahead : List Char}
  {depth offset column left right : Nat}

section Scanning

theorem unmatchedClosing?_cons
    (c : Char)
    (depth : Nat)
    (ahead : List Char) :
    unmatchedClosing? opening closing depth (c :: ahead) =
      if c = opening then
        (unmatchedClosing? opening closing (depth + 1) ahead).map (· + 1)
      else if c = closing then
        match depth with
        | 0 => some 0
        | depth + 1 => (unmatchedClosing? opening closing depth ahead).map (· + 1)
      else
        (unmatchedClosing? opening closing depth ahead).map (· + 1) := by
  exact unmatchedClosing?.eq_def opening closing depth (c :: ahead)

theorem unmatchedOpening?_cons
    (c : Char)
    (depth : Nat)
    (before : List Char) :
    unmatchedOpening? opening closing depth (c :: before) =
      if c = closing then
        unmatchedOpening? opening closing (depth + 1) before
      else if c = opening then
        match depth with
        | 0 => some before.length
        | depth + 1 => unmatchedOpening? opening closing depth before
      else
        unmatchedOpening? opening closing depth before := by
  exact unmatchedOpening?.eq_def opening closing depth (c :: before)

variable (differ : opening ≠ closing)

include differ

/-- A scan passes over a well nested text. -/
theorem unmatchedClosing?_append
    (nested : Text.WellNested [(opening, closing)] text)
    (depth : Nat)
    (ahead : List Char) :
    unmatchedClosing? opening closing depth (text ++ ahead) =
      (unmatchedClosing? opening closing depth ahead).map (· + text.length) := by
  induction nested generalizing depth ahead with
  | nil =>
      simp
  | @plain c rest isPlain _ inductionHypothesis =>
      obtain ⟨notOpening, notClosing⟩ := isPlain _ (List.mem_singleton_self _)
      rw [List.cons_append, unmatchedClosing?_cons, if_neg notOpening, if_neg notClosing,
        inductionHypothesis, Option.map_map]
      rfl
  | @enclosed _ _ inside rest isPair _ _ innerHypothesis outerHypothesis =>
      obtain ⟨rfl, rfl⟩ := Prod.mk.inj (List.mem_singleton.mp isPair)
      rw [List.cons_append, List.append_assoc, List.cons_append, unmatchedClosing?_cons,
        if_pos rfl, innerHypothesis, unmatchedClosing?_cons, if_neg differ.symm, if_pos rfl]
      dsimp only
      rw [outerHypothesis, Option.map_map, Option.map_map, Option.map_map]
      congr 1
      funext count
      simp only [Function.comp_apply, List.length_cons, List.length_append]
      omega

/-- A scan stops at a closing bracket that comes behind a well nested text. -/
theorem unmatchedClosing?_of_wellNested
    (nested : Text.WellNested [(opening, closing)] text)
    (behind : List Char) :
    unmatchedClosing? opening closing 0 (text ++ closing :: behind) = some text.length := by
  rw [unmatchedClosing?_append differ nested, unmatchedClosing?_cons, if_neg differ.symm,
    if_pos rfl, Option.map_some, Nat.zero_add]

end Scanning

/-- What a scan has passed over closes all that had to be closed, and a bracket comes next. -/
theorem closesAll_of_unmatchedClosing?
    (found : unmatchedClosing? opening closing depth ahead = some offset) :
    ∃ text behind,
      ahead = text ++ closing :: behind ∧
        text.length = offset ∧
          Text.ClosesAll [(opening, closing)] (List.replicate depth closing) text := by
  induction ahead generalizing depth offset with
  | nil =>
      contradiction
  | cons c ahead inductionHypothesis =>
      rw [unmatchedClosing?_cons] at found
      split at found
      · rename_i isOpening
        obtain ⟨earlier, foundAhead, rfl⟩ := Option.map_eq_some_iff.mp found
        obtain ⟨text, behind, rfl, rfl, closesAll⟩ := inductionHypothesis foundAhead
        refine ⟨c :: text, behind, rfl, rfl, ?_⟩
        rw [isOpening]
        exact closesAll.opened (List.mem_singleton_self _)
      · rename_i notOpening
        split at found
        · rename_i isClosing
          cases depth with
          | zero =>
              cases found
              exact ⟨[], ahead, by rw [isClosing]; rfl, rfl, .done .nil⟩
          | succ depth =>
              obtain ⟨earlier, foundAhead, rfl⟩ := Option.map_eq_some_iff.mp found
              obtain ⟨text, behind, rfl, rfl, closesAll⟩ := inductionHypothesis foundAhead
              refine ⟨c :: text, behind, rfl, rfl, ?_⟩
              rw [isClosing]
              exact .closes .nil closesAll
        · rename_i notClosing
          obtain ⟨earlier, foundAhead, rfl⟩ := Option.map_eq_some_iff.mp found
          obtain ⟨text, behind, rfl, rfl, closesAll⟩ := inductionHypothesis foundAhead
          have isPlain : Text.IsPlain [(opening, closing)] c := by
            intro pair isPair
            rw [List.mem_singleton.mp isPair]
            exact ⟨notOpening, notClosing⟩
          exact ⟨c :: text, behind, rfl, rfl, .prepend (.plain isPlain .nil) closesAll⟩

/-- Where a scan stops at the first bracket without a partner, it has passed a well nested text. -/
theorem unmatchedClosing?_eq_some_iff (differ : opening ≠ closing) :
    unmatchedClosing? opening closing 0 ahead = some offset ↔
      ∃ text behind,
        ahead = text ++ closing :: behind ∧
          text.length = offset ∧ Text.WellNested [(opening, closing)] text := by
  constructor
  · intro found
    obtain ⟨text, behind, shape, isOffset, closesAll⟩ := closesAll_of_unmatchedClosing? found
    cases closesAll with
    | done nested => exact ⟨text, behind, shape, isOffset, nested⟩
  · rintro ⟨text, behind, rfl, rfl, nested⟩
    exact unmatchedClosing?_of_wellNested differ nested behind

/-- The scan to the left is one to the right with the brackets turned round. -/
theorem unmatchedOpening?_eq (before : List Char) :
    unmatchedOpening? opening closing depth before =
      (unmatchedClosing? closing opening depth before).map (before.length - 1 - ·) := by
  induction before generalizing depth with
  | nil =>
      rfl
  | cons c before inductionHypothesis =>
      have shifted : (before.length - 1 - ·) = ((c :: before).length - 1 - ·) ∘ (· + 1) := by
        funext count
        simp only [Function.comp_apply, List.length_cons]
        omega
      rw [unmatchedOpening?_cons, unmatchedClosing?_cons]
      split
      · rw [inductionHypothesis, Option.map_map, shifted]
      · split
        · cases depth with
          | zero => rfl
          | succ depth =>
              dsimp only
              rw [inductionHypothesis, Option.map_map, shifted]
        · rw [inductionHypothesis, Option.map_map, shifted]

/-- The last bracket without a partner opens, and what comes behind it is well nested. -/
theorem unmatchedOpening?_eq_some_iff (differ : opening ≠ closing) (front : List Char) :
    unmatchedOpening? opening closing 0 front.reverse = some left ↔
      ∃ before text,
        front = before ++ opening :: text ∧
          before.length = left ∧ Text.WellNested [(opening, closing)] text := by
  rw [unmatchedOpening?_eq, Option.map_eq_some_iff]
  constructor
  · rintro ⟨offset, found, isLeft⟩
    obtain ⟨text, behind, shape, isOffset, nested⟩ :=
      (unmatchedClosing?_eq_some_iff differ.symm).mp found
    have turned := List.reverse_eq_iff.mp shape
    rw [List.reverse_append, List.reverse_cons, List.append_assoc] at turned
    refine ⟨behind.reverse, text.reverse, turned, ?_, nested.reverse⟩
    have length := congrArg List.length shape
    rw [List.length_append, List.length_cons] at length
    rw [List.length_reverse]
    omega
  · rintro ⟨before, text, rfl, rfl, nested⟩
    refine ⟨text.length, ?_, ?_⟩
    · apply (unmatchedClosing?_eq_some_iff differ.symm).mpr
      exact ⟨text.reverse, before.reverse, by simp, List.length_reverse, nested.reverse⟩
    · simp only [List.length_reverse, List.length_append, List.length_cons]
      omega

/-- The scan to the left begins at the column itself, and the one to the right behind its end. -/
theorem enclosingBrackets?_eq :
    enclosingBrackets? chars column opening closing =
      (if chars[column]? = some opening then
          some column
        else
          unmatchedOpening? opening closing 0 (chars.take column).reverse).bind fun left =>
        (unmatchedClosing? opening closing 0 (chars.drop (left + 1))).map fun offset =>
          (left, left + 1 + offset) := by
  unfold enclosingBrackets?
  rw [List.head?_drop]
  split <;> simp only [Option.map_eq_bind] <;> rfl

/-- A pair of brackets around a column, between which a line is well nested. -/
structure Encloses
    (chars : List Char)
    (column : Nat)
    (opening closing : Char)
    (left right : Nat) : Prop where
  starts : left ≤ column
  stops : column ≤ right
  opens : chars[left]? = some opening
  closes : chars[right]? = some closing
  between : Text.WellNested [(opening, closing)] ((chars.take right).drop (left + 1))

/-- A pair of brackets around a column with no other one further to the right. -/
structure EnclosesInnermost
    (chars : List Char)
    (column : Nat)
    (opening closing : Char)
    (left right : Nat) : Prop extends Encloses chars column opening closing left right where
  startsLast :
    ∀ otherLeft otherRight,
      Encloses chars column opening closing otherLeft otherRight → otherLeft ≤ left

/-- Of the pairs around a column one is the innermost. -/
theorem exists_innermost
    (encloses : Encloses chars column opening closing left right) :
    ∃ left right, EnclosesInnermost chars column opening closing left right := by
  induction room : column - left using Nat.strongRecOn generalizing left right with
  | ind room inductionHypothesis =>
      by_cases startsLast :
          ∀ otherLeft otherRight,
            Encloses chars column opening closing otherLeft otherRight → otherLeft ≤ left
      · exact ⟨left, right, { encloses with startsLast }⟩
      · simp only [Classical.not_forall, Nat.not_le] at startsLast
        obtain ⟨otherLeft, otherRight, other, closer⟩ := startsLast
        have starts := other.starts
        exact inductionHypothesis (column - otherLeft) (by omega) other rfl

/-- A list cut up around one of its items. -/
theorem eq_take_append_cons_drop
    {items : List α}
    {number : Nat}
    {item : α}
    (isItem : items[number]? = some item) :
    items = items.take number ++ item :: items.drop (number + 1) := by
  obtain ⟨inItems, rfl⟩ := List.getElem?_eq_some_iff.mp isItem
  rw [List.getElem_cons_drop, List.take_append_drop]

theorem drop_behind_item
    {items before behind : List α}
    {item : α}
    (shape : items = before ++ item :: behind) :
    items.drop (before.length + 1) = behind := by
  rw [shape, List.drop_length_add_append]
  rfl

section Found

variable (differ : opening ≠ closing)

include differ

/-- A pair around a column cuts a line up into what is before, in and behind it. -/
theorem encloses_iff :
    Encloses chars column opening closing left right ↔
      left ≤ column ∧
        column ≤ right ∧
          ∃ before inside after,
            chars = before ++ opening :: (inside ++ closing :: after) ∧
              before.length = left ∧
                left + 1 + inside.length = right ∧
                  Text.WellNested [(opening, closing)] inside := by
  constructor
  · intro encloses
    have apart : left ≠ right := by
      intro same
      have both := encloses.opens.symm.trans (same ▸ encloses.closes)
      exact differ (Option.some.inj both)
    have starts := encloses.starts
    have stops := encloses.stops
    have before : left < right := by
      omega
    obtain ⟨inLine, _⟩ := List.getElem?_eq_some_iff.mp encloses.closes
    have opens : (chars.take right)[left]? = some opening := by
      rw [List.getElem?_take_of_lt before]
      exact encloses.opens
    have shape : chars =
        (chars.take right).take left ++
          opening :: ((chars.take right).drop (left + 1) ++ closing :: chars.drop (right + 1)) := by
      rw [← List.cons_append, ← List.append_assoc, ← eq_take_append_cons_drop opens]
      exact eq_take_append_cons_drop encloses.closes
    refine ⟨starts, stops, _, _, _, shape, ?_, ?_, encloses.between⟩
    · rw [List.length_take, List.length_take]
      omega
    · rw [List.length_drop, List.length_take]
      omega
  · rintro ⟨starts, stops, before, inside, after, rfl, rfl, rfl, nested⟩
    have whole : before ++ opening :: (inside ++ closing :: after) =
        (before ++ opening :: inside) ++ closing :: after := by
      simp
    have length : (before ++ opening :: inside).length = before.length + 1 + inside.length := by
      rw [List.length_append, List.length_cons]
      omega
    refine ⟨starts, stops, by simp, ?_, ?_⟩
    · rw [whole, ← length]
      simp
    · rw [whole, ← length, List.take_left, List.drop_append, List.drop_eq_nil_of_le (by omega)]
      simpa using nested

/-- A pair in what lies between two brackets is a pair of the line. -/
theorem Encloses.of_inside
    {before inside after : List Char}
    (encloses : Encloses inside column opening closing left right)
    (shape : chars = before ++ opening :: (inside ++ closing :: after)) :
    Encloses chars (before.length + 1 + column) opening closing
      (before.length + 1 + left) (before.length + 1 + right) := by
  obtain ⟨starts, stops, earlier, inner, later, rfl, rfl, rfl, nested⟩ :=
    (encloses_iff differ).mp encloses
  refine
    (encloses_iff differ).mpr
      ⟨by omega, by omega, before ++ opening :: earlier, inner, later ++ closing :: after, ?_, ?_,
        by omega, nested⟩
  · rw [shape]
    simp
  · rw [List.length_append, List.length_cons]
    omega

/-- A pair that is found is one around the column. -/
theorem encloses_of_found
    (inLine : column < chars.length)
    (found : enclosingBrackets? chars column opening closing = some (left, right)) :
    Encloses chars column opening closing left right := by
  rw [enclosingBrackets?_eq] at found
  obtain ⟨_, foundLeft, found⟩ := Option.bind_eq_some_iff.mp found
  obtain ⟨offset, foundRight, found⟩ := Option.map_eq_some_iff.mp found
  obtain ⟨rfl, rfl⟩ := Prod.mk.inj found
  rw [encloses_iff differ]
  split at foundLeft
  · -- The column is that of an opening bracket, and the scan begins behind it.
    rename_i atOpening
    cases foundLeft
    obtain ⟨inside, after, ahead, rfl, nested⟩ :=
      (unmatchedClosing?_eq_some_iff differ).mp foundRight
    have shape := eq_take_append_cons_drop atOpening
    rw [ahead] at shape
    refine ⟨Nat.le_refl _, by omega, _, inside, after, shape, ?_, rfl, nested⟩
    rw [List.length_take, Nat.min_eq_left (Nat.le_of_lt inLine)]
  · -- What lies between the bracket and the column is well nested, so the scan passes over it.
    obtain ⟨before, text, front, rfl, nested⟩ :=
      (unmatchedOpening?_eq_some_iff differ _).mp foundLeft
    have shape : chars = before ++ opening :: (text ++ chars.drop column) := by
      rw [← List.cons_append, ← List.append_assoc, ← front, List.take_append_drop]
    have isColumn := congrArg List.length front
    rw [List.length_take, Nat.min_eq_left (Nat.le_of_lt inLine), List.length_append,
      List.length_cons] at isColumn
    rw [drop_behind_item shape, unmatchedClosing?_append differ nested] at foundRight
    obtain ⟨count, foundBehind, rfl⟩ := Option.map_eq_some_iff.mp foundRight
    obtain ⟨inside, after, ahead, rfl, insideNested⟩ :=
      (unmatchedClosing?_eq_some_iff differ).mp foundBehind
    refine
      ⟨by omega, by omega, before, text ++ inside, after, ?_, rfl, ?_, nested.append insideNested⟩
    · rw [shape, ahead, List.append_assoc]
    · rw [List.length_append]
      omega

/-- The scan to the left finds the bracket before a well nested text that ends at the column. -/
theorem found_of_front
    {before text inside after : List Char}
    (shape : chars = before ++ opening :: (inside ++ closing :: after))
    (nested : Text.WellNested [(opening, closing)] inside)
    (front : chars.take column = before ++ opening :: text)
    (textNested : Text.WellNested [(opening, closing)] text)
    (notOpening : chars[column]? ≠ some opening) :
    enclosingBrackets? chars column opening closing =
      some (before.length, before.length + 1 + inside.length) := by
  have foundLeft := (unmatchedOpening?_eq_some_iff differ (chars.take column)).mpr
    ⟨before, text, front, rfl, textNested⟩
  rw [enclosingBrackets?_eq, if_neg notOpening, foundLeft, Option.bind_some,
    drop_behind_item shape, unmatchedClosing?_of_wellNested differ nested, Option.map_some]

/-- The innermost pair around a column is found. -/
theorem found_of_innermost
    (innermost : EnclosesInnermost chars column opening closing left right) :
    enclosingBrackets? chars column opening closing = some (left, right) := by
  obtain ⟨starts, stops, before, inside, after, shape, rfl, rfl, nested⟩ :=
    (encloses_iff differ).mp innermost.toEncloses
  rcases Nat.eq_or_lt_of_le starts with rfl | behindOpening
  · rw [enclosingBrackets?_eq, if_pos innermost.opens, Option.bind_some, drop_behind_item shape,
      unmatchedClosing?_of_wellNested differ nested, Option.map_some]
  · obtain ⟨count, rfl⟩ := Nat.exists_eq_add_of_le behindOpening
    have front :
        chars.take (before.length + 1 + count) = before ++ opening :: inside.take count := by
      rw [shape, Nat.add_assoc, List.take_length_add_append, Nat.add_comm 1, List.take_succ_cons,
        List.take_append_of_le_length (by omega)]
    have atColumn : chars[before.length + 1 + count]? = (inside ++ closing :: after)[count]? := by
      rw [← List.getElem?_drop, drop_behind_item shape]
    rcases Nat.lt_or_ge count inside.length with within | isRight
    · have cut := eq_take_append_cons_drop (List.getElem?_eq_getElem within)
      rcases nested.around cut with
        ⟨opening', closing', earlier, inner, later, isPair, innerShape, innerNested, innerStarts,
          innerStops⟩ | ⟨isPlain, textNested⟩
      · -- A pair around the character would be closer.
        obtain ⟨rfl, rfl⟩ := Prod.mk.inj (List.mem_singleton.mp isPair)
        rw [List.length_take, Nat.min_eq_left (Nat.le_of_lt within)] at innerStarts innerStops
        have isInside :
            Encloses inside count opening' closing' earlier.length
              (earlier.length + 1 + inner.length) :=
          (encloses_iff differ).mpr
            ⟨innerStarts, by omega, earlier, inner, later, innerShape, rfl, rfl, innerNested⟩
        have notCloser := innermost.startsLast _ _ (isInside.of_inside differ shape)
        omega
      · apply found_of_front differ shape nested front textNested
        rw [atColumn, List.getElem?_append_left within, List.getElem?_eq_getElem within]
        exact fun isOpening =>
          (isPlain _ (List.mem_singleton_self _)).1 (Option.some.inj isOpening)
    · have atClosing : count = inside.length := by
        omega
      rw [List.take_of_length_le isRight] at front
      apply found_of_front differ shape nested front nested
      rw [atColumn, atClosing, List.getElem?_append_right (Nat.le_refl _), Nat.sub_self,
        List.getElem?_cons_zero]
      exact fun isOpening => differ (Option.some.inj isOpening).symm

/--
The brackets that are found around a column of a line are the innermost ones between which
the line is well nested, and some are found exactly if there are any.
-/
theorem findEnclosing?_finds_innermost (inLine : column < chars.length) :
    (∀ left right,
        findEnclosing? chars column opening closing = some (left, right) ↔
          EnclosesInnermost chars column opening closing left right) ∧
      ((findEnclosing? chars column opening closing).isSome = true ↔
        ∃ left right, Encloses chars column opening closing left right) := by
  have someLine : chars.isEmpty = false := by
    rw [List.isEmpty_eq_false_iff]
    exact List.ne_nil_of_length_pos (Nat.zero_lt_of_lt inLine)
  have scanned :
      findEnclosing? chars column opening closing =
        enclosingBrackets? chars column opening closing := by
    unfold findEnclosing?
    rw [someLine, if_neg Bool.false_ne_true]
    dsimp only
    rw [if_neg differ, Nat.min_eq_left (by omega)]
  have found (left right : Nat) :
      findEnclosing? chars column opening closing = some (left, right) ↔
        EnclosesInnermost chars column opening closing left right := by
    rw [scanned]
    constructor
    · intro found
      obtain ⟨left', right', innermost⟩ := exists_innermost (encloses_of_found differ inLine found)
      have same := (found_of_innermost differ innermost).symm.trans found
      obtain ⟨rfl, rfl⟩ := Prod.mk.inj (Option.some.inj same)
      exact innermost
    · exact found_of_innermost differ
  refine ⟨found, ?_⟩
  rw [Option.isSome_iff_exists]
  constructor
  · rintro ⟨⟨left, right⟩, isFound⟩
    exact ⟨left, right, ((found left right).mp isFound).toEncloses⟩
  · rintro ⟨_, _, encloses⟩
    obtain ⟨left, right, innermost⟩ := exists_innermost encloses
    exact ⟨(left, right), (found left right).mpr innermost⟩

end Found

/-- Around the last comma the outer brackets are found, and around the b the inner ones. -/
theorem calls_within_call :
    let chars := "f(a, g(b), c)".toList
    EnclosesInnermost chars 9 '(' ')' 1 12 ∧
      EnclosesInnermost chars 7 '(' ')' 6 8 ∧
        ¬ ∃ left right, Encloses chars 0 '(' ')' left right := by
  intro chars
  have differ : '(' ≠ ')' := by
    decide
  obtain ⟨atComma, _⟩ := @findEnclosing?_finds_innermost '(' ')' chars 9 differ (by decide)
  obtain ⟨atName, _⟩ := @findEnclosing?_finds_innermost '(' ')' chars 7 differ (by decide)
  obtain ⟨_, outside⟩ := @findEnclosing?_finds_innermost '(' ')' chars 0 differ (by decide)
  refine ⟨(atComma 1 12).mp (by decide), (atName 6 8).mp (by decide), ?_⟩
  rw [← outside]
  decide

end ChordEditor.Commands
