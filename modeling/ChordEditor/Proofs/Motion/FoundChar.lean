import ChordEditor.Motion
import ChordEditor.Proofs.Buffer.Arrivals
import ChordEditor.Proofs.Buffer.OwnText

namespace ChordEditor.Motion

/-!
# Finding a character on a line

A character is searched behind the place, or before it, and the occurrences are counted
from the place.  An operator takes what is between the place and the occurrence that the
count asks for (`findChar_span`).  Without so many occurrences the motion stays where it
is, and forward the operator takes the character at the place.
-/

/-! ## Occurrences in a text -/

section Columns

variable {wanted : Char} {text : List Char} {column index : Nat}

theorem mem_columnsOf : column ∈ columnsOf wanted text ↔ text[column]? = some wanted := by
  unfold columnsOf
  rw [List.mem_filter, List.mem_range, decide_eq_true_iff, and_iff_right_iff_imp]
  intro isThere
  exact (List.getElem?_eq_some_iff.mp isThere).1

theorem columnsOf_append
    (wanted : Char)
    (first second : List Char) :
    columnsOf wanted (first ++ second) =
      columnsOf wanted first ++ (columnsOf wanted second).map (first.length + ·) := by
  unfold columnsOf
  rw [List.length_append, List.range_add, List.filter_append, List.filter_map]
  congr 1
  · apply List.filter_congr
    intro column inFirst
    rw [List.getElem?_append_left (List.mem_range.mp inFirst)]
  · congr 1
    apply List.filter_congr
    intro column _
    simp [List.getElem?_append_right]

theorem columnsOf_cons
    (wanted first : Char)
    (rest : List Char) :
    columnsOf wanted (first :: rest) =
      (if first = wanted then [0] else []) ++ (columnsOf wanted rest).map (1 + ·) := by
  rw [← List.singleton_append, columnsOf_append]
  by_cases same : first = wanted <;> simp [columnsOf, same]

theorem length_columnsOf : (columnsOf wanted text).length = text.count wanted := by
  induction text with
  | nil =>
      rfl
  | cons first rest inductionHypothesis =>
      rw [columnsOf_cons, List.length_append, List.length_map, inductionHypothesis]
      by_cases same : first = wanted <;> simp [same, Nat.add_comm]

/-- The columns before an occurrence, that of the occurrence, and those behind it. -/
theorem columnsOf_split
    (before behind : List Char) :
    columnsOf wanted (before ++ wanted :: behind) =
      columnsOf wanted before ++
        before.length :: (columnsOf wanted behind).map (before.length + 1 + ·) := by
  rw [columnsOf_append, columnsOf_cons]
  simp [Function.comp_def, Nat.add_assoc]

theorem columnsOf_nodup : (columnsOf wanted text).Nodup :=
  List.nodup_range.filter _

/-- What has a rank among values that differ is found at this rank only. -/
theorem getElem?_iff_of_rank
    {values : List Nat}
    {value rank : Nat}
    (differ : values.Nodup)
    (ranked : value ∈ values → values[rank]? = some value) :
    values[index]? = some value ↔ value ∈ values ∧ rank = index := by
  constructor
  · intro found
    have isIn := List.mem_of_getElem? found
    obtain ⟨inValues, _⟩ := List.getElem?_eq_some_iff.mp (ranked isIn)
    exact ⟨isIn, (List.getElem?_inj inValues differ).mp ((ranked isIn).trans found.symm)⟩
  · rintro ⟨isIn, rfl⟩
    exact ranked isIn

/-- A text cut up before and behind an occurrence. -/
theorem exists_split (isThere : text[column]? = some wanted) :
    text = text.take column ++ wanted :: text.drop (column + 1) ∧
      (text.take column).length = column := by
  obtain ⟨inText, isWanted⟩ := List.getElem?_eq_some_iff.mp isThere
  constructor
  · rw [← isWanted, List.getElem_cons_drop, List.take_append_drop]
  · exact List.length_take_of_le (Nat.le_of_lt inText)

/-- An occurrence is the one that the number of those before it says. -/
theorem getElem?_columnsOf_iff :
    (columnsOf wanted text)[index]? = some column ↔
      text[column]? = some wanted ∧ (text.take column).count wanted = index := by
  rw [← mem_columnsOf]
  apply getElem?_iff_of_rank columnsOf_nodup
  intro isIn
  obtain ⟨parts, placed⟩ := exists_split (mem_columnsOf.mp isIn)
  generalize text.take column = before at parts placed
  generalize text.drop (column + 1) = behind at parts
  rw [parts, columnsOf_split, ← length_columnsOf,
    List.getElem?_append_right (Nat.le_refl _), Nat.sub_self, placed]
  rfl

/-- From behind an occurrence is the one that the number of those behind it says. -/
theorem getElem?_reverse_columnsOf_iff :
    (columnsOf wanted text).reverse[index]? = some column ↔
      text[column]? = some wanted ∧ (text.drop (column + 1)).count wanted = index := by
  rw [← mem_columnsOf, ← List.mem_reverse]
  have differ : (columnsOf wanted text).reverse.Nodup :=
    List.pairwise_reverse.mpr (columnsOf_nodup.imp Ne.symm)
  apply getElem?_iff_of_rank differ
  intro isIn
  obtain ⟨parts, placed⟩ := exists_split (mem_columnsOf.mp (List.mem_reverse.mp isIn))
  generalize text.take column = before at parts placed
  generalize text.drop (column + 1) = behind at parts
  have counted :
      ((columnsOf wanted behind).map (before.length + 1 + ·)).reverse.length =
        behind.count wanted := by
    rw [List.length_reverse, List.length_map, length_columnsOf]
  rw [parts, columnsOf_split, List.reverse_append, List.reverse_cons, List.append_assoc,
    List.getElem?_append_right (Nat.le_of_eq counted), counted, Nat.sub_self, placed]
  rfl

/-- The occurrences in a text in the order in which they are met, from behind if backward. -/
def columnsFrom
    (backward : Bool)
    (wanted : Char)
    (text : List Char) : List Nat :=
  if backward then (columnsOf wanted text).reverse else columnsOf wanted text

theorem length_columnsFrom
    (backward : Bool)
    (wanted : Char)
    (text : List Char) :
    (columnsFrom backward wanted text).length = text.count wanted := by
  rw [← length_columnsOf]
  cases backward with
  | false => rfl
  | true => exact List.length_reverse

/-- The columns before a column, and those from it on. -/
theorem columnsOf_take_drop
    (wanted : Char)
    (line : List Char)
    (column : Nat) :
    columnsOf wanted line =
      columnsOf wanted (line.take column) ++
        (columnsOf wanted (line.drop column)).map (column + ·) := by
  have parts := columnsOf_append wanted (line.take column) (line.drop column)
  rw [List.take_append_drop] at parts
  rw [parts]
  congr 1
  apply List.map_congr_left
  intro index isIn
  obtain ⟨inRest, _⟩ := List.getElem?_eq_some_iff.mp (mem_columnsOf.mp isIn)
  rw [List.length_drop] at inRest
  rw [List.length_take_of_le (by omega)]

theorem lt_of_mem_columnsOf_take
    (isIn : index ∈ columnsOf wanted (text.take column)) :
    index < column := by
  obtain ⟨inTaken, _⟩ := List.getElem?_eq_some_iff.mp (mem_columnsOf.mp isIn)
  rw [List.length_take] at inTaken
  omega

theorem getElem?_columnsFrom_iff (backward : Bool) :
    (columnsFrom backward wanted text)[index]? = some column ↔
      text[column]? = some wanted ∧
        (if backward then text.drop (column + 1) else text.take column).count wanted =
          index := by
  cases backward with
  | false => exact getElem?_columnsOf_iff
  | true => exact getElem?_reverse_columnsOf_iff

theorem filter_lt_columnsOf
    (wanted : Char)
    (line : List Char)
    (column : Nat) :
    (columnsOf wanted line).filter (· < column) = columnsOf wanted (line.take column) := by
  have allBefore :
      (columnsOf wanted (line.take column)).filter (· < column) =
        columnsOf wanted (line.take column) :=
    List.filter_eq_self.mpr fun _ isIn => decide_eq_true (lt_of_mem_columnsOf_take isIn)
  have noneBehind :
      ((columnsOf wanted (line.drop column)).map (column + ·)).filter (· < column) = [] := by
    simp [List.filter_map]
  rw [columnsOf_take_drop wanted line column, List.filter_append, allBefore, noneBehind,
    List.append_nil]

theorem filter_gt_columnsOf
    (wanted : Char)
    (line : List Char)
    (column : Nat) :
    (columnsOf wanted line).filter (· > column) =
      (columnsOf wanted (line.drop (column + 1))).map (column + 1 + ·) := by
  have noneBefore :
      (columnsOf wanted (line.take (column + 1))).filter (· > column) = [] := by
    apply List.filter_eq_nil_iff.mpr
    intro index isIn
    have before := lt_of_mem_columnsOf_take isIn
    rw [decide_eq_true_iff]
    omega
  have allBehind :
      ((columnsOf wanted (line.drop (column + 1))).map (column + 1 + ·)).filter (· > column) =
        (columnsOf wanted (line.drop (column + 1))).map (column + 1 + ·) := by
    apply List.filter_eq_self.mpr
    intro index isIn
    obtain ⟨inRest, _, rfl⟩ := List.mem_map.mp isIn
    rw [decide_eq_true_iff]
    omega
  rw [columnsOf_take_drop wanted line (column + 1), List.filter_append, noneBefore, allBehind,
    List.nil_append]

/-- A character is searched before the column, or behind it. -/
theorem findInLine?_eq
    (line : List Char)
    (column : Nat)
    (wanted : Char)
    (count : Nat)
    (backward : Bool) :
    findInLine? line column wanted count backward =
      if backward then
        (columnsFrom true wanted (line.take column))[count - 1]?
      else
        ((columnsFrom false wanted (line.drop (column + 1)))[count - 1]?).map
          (column + 1 + ·) := by
  cases backward with
  | true => simp [findInLine?, columnsFrom, filter_lt_columnsOf]
  | false => simp [findInLine?, columnsFrom, filter_gt_columnsOf]

end Columns

/-! ## The occurrence on a line -/

/-- Where a character is searched: on the line of the place, before it or behind it. -/
def searched
    (backward : Bool)
    (buffer : Buffer)
    (place : Nat) : Span :=
  let line := buffer.lineOf place
  if backward then
    ⟨buffer.lineStart line, min place (buffer.lineEnd line)⟩
  else
    ⟨place + 1, buffer.lineEnd line⟩

/-- The part that a search has gone over when it gets to a place. -/
def passed
    (backward : Bool)
    (buffer : Buffer)
    (place found : Nat) : Span :=
  let span := searched backward buffer place
  if backward then ⟨found + 1, span.stop⟩ else ⟨span.start, found⟩

/-- The columns of the occurrences where a character is searched, the nearest one first. -/
def candidates
    (backward : Bool)
    (buffer : Buffer)
    (place : Nat)
    (wanted : Char) : List Nat :=
  columnsFrom backward wanted (buffer.spanText (searched backward buffer place))

/-- How often a character occurs where it is searched. -/
def occurrences
    (backward : Bool)
    (buffer : Buffer)
    (place : Nat)
    (wanted : Char) : Nat :=
  (buffer.spanText (searched backward buffer place)).count wanted

/-- The place found is that of the `count`-th occurrence, counted from the place searched from. -/
structure IsOccurrence
    (backward : Bool)
    (buffer : Buffer)
    (place : Nat)
    (wanted : Char)
    (count found : Nat) : Prop where
  starts : (searched backward buffer place).start ≤ found
  stops : found < (searched backward buffer place).stop
  isThere : buffer.charAt? found = some wanted
  counted :
    (buffer.spanText (passed backward buffer place found)).count wanted + 1 = count

/-- The span between a place and the occurrence that a count asks for, or what is left of it. -/
structure SpansOccurrence
    (backward : Bool)
    (buffer : Buffer)
    (place : Nat)
    (wanted : Char)
    (count : Nat)
    (span : Span) : Prop where
  found :
    count ≤ occurrences backward buffer place wanted →
      ∃ found,
        IsOccurrence backward buffer place wanted count found ∧
          span = if backward then ⟨found, place⟩ else ⟨place, found + 1⟩
  missed :
    occurrences backward buffer place wanted < count →
      span =
        if backward = true ∨ place = buffer.length then
          ⟨place, place⟩
        else
          ⟨place, place + 1⟩

section Target

variable
  {backward : Bool}
  {buffer : Buffer}
  {place count : Nat}
  {wanted : Char}
  {args : MotionArgs}

/-- The text that is searched is a part of the own text of the line. -/
theorem spanText_searched (inText : place ≤ buffer.length) :
    buffer.spanText (searched backward buffer place) =
      if backward then
        (buffer.lineText (buffer.lineOf place)).take (buffer.columnOf place)
      else
        (buffer.lineText (buffer.lineOf place)).drop (buffer.columnOf place + 1) := by
  have isLine := buffer.lineOf_le_lastLine place
  have placed := Buffer.lineStart_add_columnOf inText
  have ends := Buffer.lineEnd_eq isLine
  cases backward with
  | true =>
      have isPart :=
        Buffer.slice_lineStart_add isLine 0 (Nat.min_le_right (buffer.columnOf place) _)
      rw [Nat.add_zero, List.drop_zero, ← List.take_eq_take_min, ← Nat.add_min_add_left,
        placed, ← ends] at isPart
      exact isPart
  | false =>
      have isPart :=
        Buffer.slice_lineStart_add isLine (buffer.columnOf place + 1) (Nat.le_refl _)
      rw [List.take_length, ← Nat.add_assoc, placed, ← ends] at isPart
      exact isPart

theorem length_candidates :
    (candidates backward buffer place wanted).length =
      occurrences backward buffer place wanted :=
  length_columnsFrom backward wanted _

/-- The motion arrives at the occurrence that the count asks for, if there is one. -/
theorem target_findChar
    (inText : place ≤ buffer.length)
    (asked : args.literal = some wanted) :
    (findChar backward).target buffer place args =
      match (candidates backward buffer place wanted)[max args.count 1 - 1]? with
      | none => place
      | some index => (searched backward buffer place).start + index := by
  have placed := Buffer.lineStart_add_columnOf inText
  rw [candidates, spanText_searched inText]
  simp only [target, Buffer.clamp_of_le inText, asked, findInLine?_eq]
  cases backward with
  | true =>
      cases found : (columnsFrom true wanted
          ((buffer.lineText (buffer.lineOf place)).take
            (buffer.columnOf place)))[max args.count 1 - 1]? with
      | none =>
          simp [found]
      | some index =>
          simp [searched, found]
  | false =>
      simp only [searched, Bool.false_eq_true, if_false]
      cases (columnsFrom false wanted
          ((buffer.lineText (buffer.lineOf place)).drop
            (buffer.columnOf place + 1)))[max args.count 1 - 1]? with
      | none =>
          rfl
      | some index =>
          simp only [Option.map_some]
          omega

/-- What a search has gone over is before or behind the occurrence in the text searched. -/
theorem spanText_passed
    {index : Nat}
    (within :
      (searched backward buffer place).start + index < (searched backward buffer place).stop) :
    buffer.spanText
        (passed backward buffer place ((searched backward buffer place).start + index)) =
      if backward then
        (buffer.spanText (searched backward buffer place)).drop (index + 1)
      else
        (buffer.spanText (searched backward buffer place)).take index := by
  cases backward with
  | true =>
      exact
        (Buffer.drop_slice (searched true buffer place).start (searched true buffer place).stop
          (index + 1)).symm
  | false =>
      exact (Buffer.take_slice (Nat.le_of_lt within)).symm

/-- The places of the occurrences are given by the columns in the text that is searched. -/
theorem isOccurrence_iff {index : Nat} :
    IsOccurrence backward buffer place wanted (count + 1)
        ((searched backward buffer place).start + index) ↔
      (candidates backward buffer place wanted)[count]? = some index := by
  rw [candidates, getElem?_columnsFrom_iff]
  constructor
  · rintro ⟨_, within, isThere, counted⟩
    rw [← spanText_passed within]
    exact ⟨(Buffer.getElem?_slice within).trans isThere, Nat.succ.inj counted⟩
  · rintro ⟨isThere, counted⟩
    have within :
        (searched backward buffer place).start + index <
          (searched backward buffer place).stop := by
      obtain ⟨inText, _⟩ := List.getElem?_eq_some_iff.mp isThere
      exact Nat.add_lt_of_lt_sub' (Nat.lt_of_lt_of_le inText (Buffer.length_slice_le _ _))
    rw [← spanText_passed within] at counted
    exact
      ⟨Nat.le_add_right _ _, within, (Buffer.getElem?_slice within).symm.trans isThere,
        congrArg (· + 1) counted⟩

/-- There is one place of the occurrence that a count asks for. -/
theorem IsOccurrence.unique
    {first second : Nat}
    (isFirst : IsOccurrence backward buffer place wanted count first)
    (isSecond : IsOccurrence backward buffer place wanted count second) :
    first = second := by
  obtain ⟨firstIndex, rfl⟩ := Nat.exists_eq_add_of_le isFirst.starts
  obtain ⟨secondIndex, rfl⟩ := Nat.exists_eq_add_of_le isSecond.starts
  obtain rfl := isFirst.counted
  have sameIndex :=
    (isOccurrence_iff.mp isFirst).symm.trans (isOccurrence_iff.mp isSecond)
  rw [Option.some.inj sameIndex]

/-- An occurrence that is found lies before the place, or behind it. -/
theorem IsOccurrence.beside
    {found : Nat}
    (isOccurrence : IsOccurrence backward buffer place wanted count found) :
    if backward then found < place else place < found := by
  obtain ⟨starts, stops, _, _⟩ := isOccurrence
  cases backward with
  | true => exact Nat.lt_of_lt_of_le stops (Nat.min_le_left _ _)
  | false => exact starts

/-- With enough occurrences the motion arrives at one of them, else it stays at the place. -/
theorem target_findChar_cases
    (inText : place ≤ buffer.length)
    (asked : args.literal = some wanted) :
    let arrival := (findChar backward).target buffer place args
    (max args.count 1 ≤ occurrences backward buffer place wanted →
      IsOccurrence backward buffer place wanted (max args.count 1) arrival) ∧
      (occurrences backward buffer place wanted < max args.count 1 → arrival = place) := by
  intro arrival
  have arrives : arrival = _ := target_findChar inText asked
  have positive : max args.count 1 - 1 + 1 = max args.count 1 :=
    Nat.sub_add_cancel (Nat.le_max_right _ _)
  cases found : (candidates backward buffer place wanted)[max args.count 1 - 1]? with
  | none =>
      rw [found] at arrives
      rw [List.getElem?_eq_none_iff, length_candidates] at found
      exact ⟨fun enough => absurd enough (by omega), fun _ => arrives⟩
  | some index =>
      have atOccurrence : arrival = (searched backward buffer place).start + index := by
        rw [arrives, found]
      have isOccurrence := isOccurrence_iff.mpr found
      rw [positive, ← atOccurrence] at isOccurrence
      obtain ⟨inCandidates, _⟩ := List.getElem?_eq_some_iff.mp found
      rw [length_candidates] at inCandidates
      exact ⟨fun _ => isOccurrence, fun tooFew => absurd tooFew (by omega)⟩

/-- Operators take the character that is arrived at if the motion does not go backward. -/
theorem operatorEnd_findChar (arrival : Nat) :
    (findChar backward).operatorEnd buffer place arrival =
      if backward = false ∧ place ≤ arrival ∧ arrival < buffer.length then
        arrival + 1
      else
        arrival := by
  cases backward <;> simp [operatorEnd, isInclusive]

/--
An operator takes what is between the place and the occurrence that the count asks for,
forward with the occurrence.  If there is none it takes nothing backward and at the end of
the text, and elsewhere the character at the place.
-/
theorem findChar_span
    (inText : place ≤ buffer.length)
    (asked : args.literal = some wanted) :
    SpansOccurrence backward buffer place wanted (max args.count 1)
      ((findChar backward).operatorSpan buffer place args) := by
  obtain ⟨arrivesAt, stays⟩ :=
    @target_findChar_cases backward buffer place wanted args inText asked
  rw [operatorSpan_of_charwise rfl inText, operatorEnd_findChar]
  generalize (findChar backward).target buffer place args = arrival at arrivesAt stays ⊢
  constructor
  · intro enough
    have isOccurrence := arrivesAt enough
    refine ⟨arrival, isOccurrence, ?_⟩
    have beside := isOccurrence.beside
    have arrivalInText : arrival < buffer.length :=
      (List.getElem?_eq_some_iff.mp isOccurrence.isThere).1
    cases backward with
    | true =>
        have before : arrival ≤ place := Nat.le_of_lt beside
        simp [Nat.min_eq_right before, Nat.max_eq_left before]
    | false =>
        have behind : place ≤ arrival := Nat.le_of_lt beside
        simp [behind, arrivalInText, Nat.le_succ_of_le behind]
  · intro tooFew
    rw [stays tooFew]
    cases backward with
    | true =>
        simp
    | false =>
        rcases Nat.eq_or_lt_of_le inText with atEnd | inside
        · simp [atEnd]
        · simp [inside, Nat.ne_of_lt inside]

end Target

end ChordEditor.Motion
