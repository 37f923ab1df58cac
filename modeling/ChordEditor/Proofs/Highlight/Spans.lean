import ChordEditor.Proofs.Highlight.Regions
import Mathlib.Data.List.Induction

namespace ChordEditor

/-!
# Spans of a line

The spans of a line are what its paints leave to be seen, run by run: a column has the
class of the paint over it that was laid on last, however long that one is, and columns
next to each other with one class make one span (`lineSpans_showsRuns`).

Rules paint in their order what they touch, and constructs paint their regions on top.
The bounds of paints are found as numbers of bytes, and made columns again by a table;
they come back as they were, or at the end of the line (`getElem?_charIndexMap`).
-/

namespace Paint

/-- A paint lies over a column. -/
def Covers (paint : Paint) (column : Nat) : Prop :=
  paint.start ≤ column ∧ column < paint.stop

instance (paint : Paint) (column : Nat) : Decidable (paint.Covers column) :=
  inferInstanceAs (Decidable (_ ∧ _))

end Paint

/-- What a rule classifies in one of its matches lies over a column. -/
def GrammarRule.Touches (rule : GrammarRule) (text : List Char) (column : Nat) : Prop :=
  ∃ found ∈ rule.pattern.allMatches text,
    ∃ piece,
      found.group? rule.group = some piece ∧ piece.start ≤ column ∧ column < piece.stop

namespace Highlight

/-- The last item of a list for which something holds. -/
def IsLastWith {Item : Type} (holds : Item → Prop) (items : List Item) (last : Item) : Prop :=
  ∃ earlier later,
    items = earlier ++ last :: later ∧ holds last ∧ ∀ item ∈ later, ¬ holds item

section Last

variable {Item : Type} {holds : Item → Prop} {items later : List Item} {item last : Item}

theorem IsLastWith.mem (isLast : IsLastWith holds items last) : last ∈ items := by
  obtain ⟨front, behind, rfl, -⟩ := isLast
  exact List.mem_append_right _ List.mem_cons_self

theorem not_isLastWith_nil : ¬ IsLastWith holds [] last := by
  rintro ⟨front, behind, shape, -⟩
  simp at shape

theorem isLastWith_singleton :
    IsLastWith holds [item] last ↔ last = item ∧ holds item := by
  constructor
  · rintro ⟨front, behind, shape, holdsThere, -⟩
    obtain ⟨rfl, isLast⟩ | ⟨_, _, isNil⟩ := List.cons_eq_append_iff.mp shape
    · obtain ⟨rfl, -⟩ := List.cons.inj isLast
      exact ⟨rfl, holdsThere⟩
    · simp at isNil
  · rintro ⟨rfl, holdsThere⟩
    exact ⟨[], [], rfl, holdsThere, nofun⟩

/-- The last item is among the later ones, if it holds for any of them. -/
theorem isLastWith_append :
    IsLastWith holds (items ++ later) last ↔
      IsLastWith holds later last ∨
        (∀ item ∈ later, ¬ holds item) ∧ IsLastWith holds items last := by
  constructor
  · rintro ⟨front, behind, shape, holdsThere, holdsNot⟩
    obtain ⟨middle, rfl, isBehind⟩ | ⟨middle, rfl, isFront⟩ :=
      List.append_eq_append_iff.mp shape
    · exact .inl ⟨middle, behind, isBehind, holdsThere, holdsNot⟩
    · cases middle with
      | nil =>
          exact .inl ⟨[], behind, isFront.symm, holdsThere, holdsNot⟩
      | cons first middle =>
          obtain ⟨rfl, rfl⟩ := List.cons.inj isFront
          refine .inr ⟨?_, front, middle, rfl, holdsThere, ?_⟩
          · intro item member
            exact holdsNot item (List.mem_append_right _ member)
          · intro item member
            exact holdsNot item (List.mem_append_left _ member)
  · rintro (⟨front, behind, rfl, holdsThere, holdsNot⟩ |
      ⟨holdsNotLater, front, behind, rfl, holdsThere, holdsNot⟩)
    · exact ⟨items ++ front, behind, (List.append_assoc _ _ _).symm, holdsThere, holdsNot⟩
    · refine ⟨front, behind ++ later, List.append_assoc _ _ _, holdsThere, ?_⟩
      intro item member
      exact (List.mem_append.mp member).elim (holdsNot item) (holdsNotLater item)

/-- There is a last item exactly if there is one at all. -/
theorem exists_isLastWith_iff :
    (∃ last, IsLastWith holds items last) ↔ ∃ item ∈ items, holds item := by
  induction items using List.reverseRecOn with
  | nil =>
      simp [not_isLastWith_nil]
  | append_singleton items item inductionHypothesis =>
      by_cases holdsThere : holds item
      · simp [isLastWith_append, isLastWith_singleton, holdsThere]
      · simp [isLastWith_append, isLastWith_singleton, holdsThere, inductionHypothesis]

end Last

variable {length column : Nat} {paints : List Paint} {paint : Paint}

/-- A paint over a column that none of those laid on later lies over. -/
def LastOver (paints : List Paint) (column : Nat) (last : Paint) : Prop :=
  IsLastWith (Paint.Covers · column) paints last

/-- A paint changes the class of the columns that it lies over, and of no others. -/
theorem getElem?_layOn (classes : List (Option TokenClass)) (paint : Paint) (column : Nat) :
    (layOn classes paint)[column]? =
      classes[column]?.map fun painted =>
        if paint.Covers column then some paint.tokenClass else painted := by
  rw [layOn, List.getElem?_mapIdx]
  rfl

/-- A paint on the whole line covers all that has been painted before. -/
theorem layOn_whole
    {classes : List (Option TokenClass)}
    (isLength : classes.length = length)
    (tokenClass : TokenClass) :
    layOn classes ⟨0, length, tokenClass⟩ = List.replicate length (some tokenClass) := by
  subst isLength
  apply List.ext_getElem
  · simp [layOn]
  · intro column inClasses inLine
    rw [List.length_replicate] at inLine
    simp [layOn, inLine]

theorem length_columnClasses (length : Nat) (paints : List Paint) :
    (columnClasses length paints).length = length := by
  induction paints using List.reverseRecOn with
  | nil =>
      exact List.length_replicate
  | append_singleton paints paint inductionHypothesis =>
      rw [columnClasses, List.foldl_append, List.foldl_cons, List.foldl_nil, layOn,
        List.length_mapIdx]
      exact inductionHypothesis

/-- The class of a column is that of the last paint over it. -/
theorem getElem?_columnClasses_eq_some_iff {tokenClass : TokenClass} :
    (columnClasses length paints)[column]? = some (some tokenClass) ↔
      column < length ∧
        ∃ last, LastOver paints column last ∧ last.tokenClass = tokenClass := by
  induction paints using List.reverseRecOn with
  | nil =>
      simp [columnClasses, List.getElem?_replicate, LastOver, not_isLastWith_nil]
  | append_singleton paints paint inductionHypothesis =>
      have layered :
          columnClasses length (paints ++ [paint]) =
            layOn (columnClasses length paints) paint :=
        List.foldl_append
      rw [layered, getElem?_layOn]
      simp only [LastOver, isLastWith_append, isLastWith_singleton, List.mem_singleton,
        forall_eq]
      by_cases covers : paint.Covers column
      · have isColumn :
            (∃ painted, (columnClasses length paints)[column]? = some painted) ↔
              column < length := by
          rw [← Option.isSome_iff_exists, isSome_getElem?, length_columnClasses]
        simp [covers, isColumn]
      · simpa [covers, LastOver] using inductionHypothesis

section Bytes

variable {text : List Char}

theorem getElem?_charIndexFrom (index place : Nat) (text : List Char) :
    (Text.charIndexFrom index text)[Text.bytesBefore text place]? =
      some (index + min place text.length) := by
  induction text generalizing index place with
  | nil =>
      rw [Text.bytesBefore, List.take_nil, List.length_nil, Nat.min_zero]
      rfl
  | cons c rest inductionHypothesis =>
      cases place with
      | zero =>
          rw [Nat.zero_min]
          rfl
      | succ place =>
          have someBytes := c.utf8Size_pos
          have before :
              Text.bytesBefore (c :: rest) (place + 1) =
                c.utf8Size + Text.bytesBefore rest place :=
            rfl
          have front :
              (index :: List.replicate (c.utf8Size - 1) (index + 1)).length = c.utf8Size := by
            rw [List.length_cons, List.length_replicate, Nat.sub_add_cancel someBytes]
          rw [before, Text.charIndexFrom, List.getElem?_append_right (by omega), front,
            Nat.add_sub_cancel_left, inductionHypothesis, List.length_cons,
            Nat.add_min_add_right]
          exact congrArg some (by omega)

/-- The table gives back the place that some bytes come before, if it is on the line. -/
theorem getElem?_charIndexMap (text : List Char) (place : Nat) :
    (Text.charIndexMap text)[Text.bytesBefore text place]? = some (min place text.length) := by
  rw [Text.charIndexMap, getElem?_charIndexFrom, Nat.zero_add]

/-- A paint that has been made columns again lies over the same columns of the line. -/
theorem inColumns_covers_iff
    (paint : Paint)
    (onLine : column < text.length) :
    (inColumns (Text.charIndexMap text) (inBytes text paint)).Covers column ↔
      paint.Covers column := by
  unfold inColumns inBytes Paint.Covers
  dsimp only
  rw [getElem?_charIndexMap, getElem?_charIndexMap, Option.getD_some, Option.getD_some]
  omega

/-- Paints by columns, by bytes and by columns again give the same classes. -/
theorem columnClasses_inColumns (text : List Char) (paints : List Paint) :
    columnClasses text.length
        ((paints.map (inBytes text)).map (inColumns (Text.charIndexMap text))) =
      columnClasses text.length paints := by
  induction paints using List.reverseRecOn with
  | nil =>
      rfl
  | append_singleton paints paint inductionHypothesis =>
      rw [List.map_append, List.map_append, columnClasses, List.foldl_append, ← columnClasses,
        inductionHypothesis, columnClasses, columnClasses, List.foldl_append, ← columnClasses]
      apply List.ext_getElem?
      intro column
      rw [List.map_singleton, List.map_singleton, List.foldl_cons, List.foldl_nil,
        List.foldl_cons, List.foldl_nil, getElem?_layOn, getElem?_layOn]
      by_cases onLine : column < text.length
      · simp only [inColumns_covers_iff paint onLine]
        rfl
      · rw [List.getElem?_eq_none (by rw [length_columnClasses]; omega)]
        rfl

/-- The spans of a line are the runs of the classes that its paints give. -/
theorem lineSpans_eq
    (grammar : Grammar)
    (text : List Char)
    (incoming : CarryState) :
    lineSpans grammar text incoming =
      spansFrom 0 (columnClasses text.length (linePaints grammar text incoming)) :=
  congrArg (spansFrom 0) (columnClasses_inColumns text _)

end Bytes

section Runs

/--
Spans that show the classes of some columns, the first of which is `column`: none is
empty or plain, they lie one behind the other, those that touch differ in class, and a
place lies in a span of a class exactly if that is its class.
-/
structure ShowsRuns
    (column : Nat)
    (classes : List (Option TokenClass))
    (spans : List Paint) : Prop where
  notEmpty : ∀ span ∈ spans, span.start < span.stop
  behind : ∀ span ∈ spans, column ≤ span.start
  within : ∀ span ∈ spans, span.stop ≤ column + classes.length
  notPlain : ∀ span ∈ spans, span.tokenClass ≠ .plain
  ordered :
    spans.Pairwise fun first second =>
      first.stop ≤ second.start ∧
        (first.stop = second.start → first.tokenClass ≠ second.tokenClass)
  shown :
    ∀ place tokenClass,
      (∃ span ∈ spans, span.Covers (column + place) ∧ span.tokenClass = tokenClass) ↔
        tokenClass ≠ .plain ∧ classes[place]? = some (some tokenClass)

namespace ShowsRuns

variable {classes : List (Option TokenClass)} {spans : List Paint} {tokenClass : TokenClass}

theorem nil (column : Nat) : ShowsRuns column [] [] := by
  constructor <;> simp

/-- A column that has no class to show is passed over. -/
theorem pass
    (behind : ShowsRuns (column + 1) classes spans)
    {cell : Option TokenClass}
    (showsNothing : ∀ tokenClass ∈ cell, tokenClass = .plain) :
    ShowsRuns column (cell :: classes) spans where
  notEmpty := behind.notEmpty
  behind span member := Nat.le_of_succ_le (behind.behind span member)
  within span member := by
    have inside := behind.within span member
    rw [List.length_cons]
    omega
  notPlain := behind.notPlain
  ordered := behind.ordered
  shown place tokenClass := by
    cases place with
    | zero =>
        constructor
        · rintro ⟨span, member, covers, -⟩
          have starts := behind.behind span member
          have startsBefore := covers.1
          omega
        · rintro ⟨isNotPlain, isCell⟩
          exact absurd (showsNothing tokenClass (Option.some.inj isCell)) isNotPlain
    | succ place =>
        rw [List.getElem?_cons_succ, ← behind.shown place tokenClass, Nat.add_right_comm,
          Nat.add_assoc]

/-- A column in front of all spans lies in none of them. -/
theorem not_covers_front
    (behind : ShowsRuns (column + 1) classes spans)
    {span : Paint}
    (member : span ∈ spans) :
    ¬ span.Covers column := by
  intro covers
  exact absurd (Nat.le_trans (behind.behind span member) covers.1) (Nat.not_succ_le_self _)

/-- A span whose class the column in front of it has, too, grows by that column. -/
theorem grow
    {stop : Nat}
    (behind : ShowsRuns (column + 1) classes (⟨column + 1, stop, tokenClass⟩ :: spans)) :
    ShowsRuns column (some tokenClass :: classes) (⟨column, stop, tokenClass⟩ :: spans) := by
  obtain ⟨first, others⟩ := List.forall_mem_cons.mp behind.notEmpty
  obtain ⟨firstWithin, othersWithin⟩ := List.forall_mem_cons.mp behind.within
  obtain ⟨isNotPlain, othersNotPlain⟩ := List.forall_mem_cons.mp behind.notPlain
  obtain ⟨-, othersBehind⟩ := List.forall_mem_cons.mp behind.behind
  refine ⟨?_, ?_, ?_, ?_, ?_, ?_⟩
  · exact List.forall_mem_cons.mpr ⟨Nat.lt_of_succ_lt first, others⟩
  · refine List.forall_mem_cons.mpr ⟨Nat.le_refl _, ?_⟩
    intro span member
    exact Nat.le_of_succ_le (othersBehind span member)
  · rw [List.length_cons, ← Nat.add_assoc, Nat.add_right_comm]
    exact List.forall_mem_cons.mpr ⟨firstWithin, othersWithin⟩
  · exact List.forall_mem_cons.mpr ⟨isNotPlain, othersNotPlain⟩
  · exact List.pairwise_cons.mpr (List.pairwise_cons.mp behind.ordered)
  · intro place shownClass
    cases place with
    | zero =>
        constructor
        · rintro ⟨span, member, covers, rfl⟩
          obtain rfl | isOther := List.mem_cons.mp member
          · exact ⟨isNotPlain, rfl⟩
          · exact absurd covers (behind.not_covers_front (List.mem_cons_of_mem _ isOther))
        · rintro ⟨-, isCell⟩
          exact ⟨_, List.mem_cons_self, ⟨Nat.le_refl _, Nat.lt_of_succ_lt first⟩,
            Option.some.inj (Option.some.inj isCell)⟩
    | succ place =>
        have samePlace :
            Paint.Covers ⟨column, stop, tokenClass⟩ (column + 1 + place) ↔
              Paint.Covers ⟨column + 1, stop, tokenClass⟩ (column + 1 + place) := by
          simp only [Paint.Covers]
          omega
        rw [List.getElem?_cons_succ, ← behind.shown place shownClass]
        simp only [List.mem_cons, exists_eq_or_imp, samePlace, Nat.add_comm place 1,
          ← Nat.add_assoc]

/-- A span of one column opens in front of spans that do not go on with its class. -/
theorem opens
    (behind : ShowsRuns (column + 1) classes spans)
    (isNotPlain : tokenClass ≠ .plain)
    (goesOnOtherwise :
      ∀ span ∈ spans.head?, span.start = column + 1 → span.tokenClass ≠ tokenClass) :
    ShowsRuns column (some tokenClass :: classes)
      (⟨column, column + 1, tokenClass⟩ :: spans) where
  notEmpty := List.forall_mem_cons.mpr ⟨Nat.lt_succ_self _, behind.notEmpty⟩
  behind :=
    List.forall_mem_cons.mpr
      ⟨Nat.le_refl _, fun span member => Nat.le_of_succ_le (behind.behind span member)⟩
  within := by
    rw [List.length_cons, ← Nat.add_assoc, Nat.add_right_comm]
    exact List.forall_mem_cons.mpr ⟨Nat.le_add_right _ _, behind.within⟩
  notPlain := List.forall_mem_cons.mpr ⟨isNotPlain, behind.notPlain⟩
  ordered := by
    refine List.pairwise_cons.mpr ⟨?_, behind.ordered⟩
    intro span member
    refine ⟨behind.behind span member, ?_⟩
    intro touches
    cases spans with
    | nil =>
        cases member
    | cons first spans =>
        obtain rfl | isOther := List.mem_cons.mp member
        · exact (goesOnOtherwise _ rfl touches.symm).symm
        · -- The first span takes a column at least, so that no other one touches.
          have isFirst := List.mem_cons_self (a := first) (l := spans)
          have firstStarts := behind.behind first isFirst
          have firstEnds := behind.notEmpty first isFirst
          have otherBehind := ((List.pairwise_cons.mp behind.ordered).1 span isOther).1
          dsimp only at touches
          omega
  shown place shownClass := by
    cases place with
    | zero =>
        constructor
        · rintro ⟨span, member, covers, rfl⟩
          obtain rfl | isOther := List.mem_cons.mp member
          · exact ⟨isNotPlain, rfl⟩
          · exact absurd covers (behind.not_covers_front isOther)
        · rintro ⟨-, isCell⟩
          exact ⟨_, List.mem_cons_self, ⟨Nat.le_refl _, Nat.lt_succ_self _⟩,
            Option.some.inj (Option.some.inj isCell)⟩
    | succ place =>
        have notThere :
            ¬ Paint.Covers ⟨column, column + 1, tokenClass⟩ (column + 1 + place) := by
          simp only [Paint.Covers]
          omega
        rw [List.getElem?_cons_succ, ← behind.shown place shownClass]
        simp only [List.mem_cons, exists_eq_or_imp, notThere, Nat.add_comm place 1,
          ← Nat.add_assoc, false_and, false_or]

end ShowsRuns

/-- The spans made of some columns show their classes. -/
theorem spansFrom_showsRuns (column : Nat) (classes : List (Option TokenClass)) :
    ShowsRuns column classes (spansFrom column classes) := by
  induction classes generalizing column with
  | nil =>
      exact .nil column
  | cons cell classes inductionHypothesis =>
      have behind := inductionHypothesis (column + 1)
      cases cell with
      | none =>
          exact behind.pass nofun
      | some tokenClass =>
          by_cases isPlain : tokenClass = .plain
          · subst isPlain
            exact behind.pass (by simp)
          · rw [spansFrom.eq_4 _ _ _ isPlain]
            split
            · rename_i isNil
              rw [isNil] at behind
              exact behind.opens isPlain nofun
            · rename_i span spans isCons
              rw [isCons] at behind
              split
              · rename_i goesOn
                obtain ⟨start, stop, spanClass⟩ := span
                obtain ⟨rfl, rfl⟩ := goesOn
                exact behind.grow
              · rename_i goesOnOtherwise
                apply behind.opens isPlain
                intro first isFirst isStart isClass
                cases isFirst
                exact goesOnOtherwise ⟨isStart, isClass⟩

/-- Columns of one class make one span. -/
theorem spansFrom_replicate
    {tokenClass : TokenClass}
    (isNotPlain : tokenClass ≠ .plain)
    (column width : Nat) :
    spansFrom column (List.replicate (width + 1) (some tokenClass)) =
      [⟨column, column + (width + 1), tokenClass⟩] := by
  induction width generalizing column with
  | zero =>
      simp [spansFrom]
  | succ width inductionHypothesis =>
      rw [List.replicate_succ, spansFrom.eq_4 _ _ _ isNotPlain, inductionHypothesis]
      simp only [and_self, if_true]
      rw [Nat.add_assoc, Nat.add_comm 1]

end Runs

section Sources

variable {text : List Char} {rule : GrammarRule}

/-- The paints of a rule have its class. -/
theorem tokenClass_of_mem_rulePaints
    (member : paint ∈ rulePaints text rule) :
    paint.tokenClass = rule.tokenClass := by
  obtain ⟨found, -, painted⟩ := List.mem_filterMap.mp member
  obtain ⟨piece, -, isPaint⟩ := Option.bind_eq_some_iff.mp painted
  split at isPaint
  · cases isPaint
    rfl
  · cases isPaint

/-- A paint of a rule lies over the columns that the rule touches, and over no others. -/
theorem exists_mem_rulePaints_iff :
    (∃ paint ∈ rulePaints text rule, paint.Covers column) ↔ rule.Touches text column := by
  constructor
  · rintro ⟨paint, member, covers⟩
    obtain ⟨found, isMatch, painted⟩ := List.mem_filterMap.mp member
    obtain ⟨piece, isPiece, isPaint⟩ := Option.bind_eq_some_iff.mp painted
    split at isPaint
    · cases isPaint
      exact ⟨found, isMatch, piece, isPiece, covers⟩
    · cases isPaint
  · rintro ⟨found, isMatch, piece, isPiece, starts, stops⟩
    refine ⟨⟨piece.start, piece.stop, rule.tokenClass⟩, ?_, starts, stops⟩
    apply List.mem_filterMap.mpr
    exact ⟨found, isMatch, Option.bind_eq_some_iff.mpr
      ⟨piece, isPiece, if_pos (Nat.lt_of_le_of_lt starts stops)⟩⟩

/-- A rule gives its class to the columns that it touches. -/
theorem exists_lastOver_rulePaints_iff
    {tokenClass : TokenClass} :
    (∃ last,
        LastOver (rulePaints text rule) column last ∧ last.tokenClass = tokenClass) ↔
      rule.Touches text column ∧ rule.tokenClass = tokenClass := by
  rw [← exists_mem_rulePaints_iff, ← exists_isLastWith_iff]
  constructor
  · rintro ⟨last, isLast, rfl⟩
    exact ⟨⟨last, isLast⟩, (tokenClass_of_mem_rulePaints isLast.mem).symm⟩
  · rintro ⟨⟨last, isLast⟩, rfl⟩
    exact ⟨last, isLast, tokenClass_of_mem_rulePaints isLast.mem⟩

/-- The class that rules give to a column is that of the last one to touch it. -/
theorem exists_lastOver_flatMap_rulePaints_iff
    {rules : List GrammarRule}
    {tokenClass : TokenClass} :
    (∃ last,
        LastOver (rules.flatMap (rulePaints text)) column last ∧
          last.tokenClass = tokenClass) ↔
      ∃ rule,
        IsLastWith (GrammarRule.Touches · text column) rules rule ∧
          rule.tokenClass = tokenClass := by
  induction rules using List.reverseRecOn with
  | nil =>
      simp [LastOver, not_isLastWith_nil]
  | append_singleton rules rule inductionHypothesis =>
      have untouched :
          (∀ paint ∈ rulePaints text rule, ¬ paint.Covers column) ↔
            ¬ rule.Touches text column := by
        rw [← exists_mem_rulePaints_iff]
        simp only [not_exists, not_and]
      rw [List.flatMap_append, List.flatMap_singleton]
      simp only [LastOver, isLastWith_append, isLastWith_singleton, or_and_right, exists_or,
        and_assoc, exists_and_left, untouched, List.mem_singleton, forall_eq,
        exists_eq_left]
      exact or_congr exists_lastOver_rulePaints_iff (and_congr_right fun _ => inductionHypothesis)

/-- The region of a construct lies over a column. -/
def ConstructOver
    (grammar : Grammar)
    (text : List Char)
    (incoming : CarryState)
    (column : Nat)
    (tokenClass : TokenClass) : Prop :=
  ∃ regions,
    Regions grammar.constructs text (openAtStart grammar incoming) 0 regions ∧
      ∃ region ∈ regions, region.Covers column ∧ region.tokenClass = tokenClass

/--
The class that a column has been given last: that of the construct whose region lies over
it, or, if there is none, that of the last rule to touch it.
-/
def GivenLast
    (grammar : Grammar)
    (text : List Char)
    (incoming : CarryState)
    (column : Nat)
    (tokenClass : TokenClass) : Prop :=
  ConstructOver grammar text incoming column tokenClass ∨
    (∀ other, ¬ ConstructOver grammar text incoming column other) ∧
      ∃ rule,
        IsLastWith (GrammarRule.Touches · text column) grammar.rules rule ∧
          rule.tokenClass = tokenClass

variable {grammar : Grammar} {incoming : CarryState} {tokenClass : TokenClass}

/-- The paints of constructs are their regions. -/
theorem constructOver_iff :
    ConstructOver grammar text incoming column tokenClass ↔
      ∃ paint ∈ (scanConstructs grammar text incoming).1,
        paint.Covers column ∧ paint.tokenClass = tokenClass := by
  unfold ConstructOver scanConstructs
  simp only [← scanConstructs?_iff]
  cases scanConstructs? grammar text incoming with
  | none =>
      simp
  | some scanned =>
      obtain ⟨paints, carry⟩ := scanned
      simp

/-- No two constructs paint one column. -/
theorem scanConstructs_apart :
    (scanConstructs grammar text incoming).1.Pairwise
      fun first second => first.stop ≤ second.start := by
  unfold scanConstructs
  cases scanned : scanConstructs? grammar text incoming with
  | none =>
      exact .nil
  | some found =>
      have isRegions := scanConstructs?_iff.mp ⟨found.2, scanned⟩
      refine (isRegions.apart ?_).2
      intro opened isOpen
      obtain ⟨construct, -, rfl⟩ := Option.map_eq_some_iff.mp isOpen
      exact Nat.le_refl _

/-- The last paint of a construct over a column is the only one. -/
theorem exists_lastOver_scanConstructs_iff :
    (∃ last,
        LastOver (scanConstructs grammar text incoming).1 column last ∧
          last.tokenClass = tokenClass) ↔
      ConstructOver grammar text incoming column tokenClass := by
  rw [constructOver_iff]
  constructor
  · rintro ⟨last, isLast, isClass⟩
    have ⟨_, _, _, covers, _⟩ := isLast
    exact ⟨last, isLast.mem, covers, isClass⟩
  · rintro ⟨paint, member, covers, isClass⟩
    obtain ⟨earlier, later, shape⟩ := List.append_of_mem member
    refine ⟨paint, ⟨earlier, later, shape, covers, ?_⟩, isClass⟩
    intro other isLater otherCovers
    have apart := @scanConstructs_apart text grammar incoming
    rw [shape] at apart
    have isBehind :=
      (List.pairwise_cons.mp (List.pairwise_append.mp apart).2.1).1 other isLater
    exact absurd (Nat.lt_of_lt_of_le covers.2 isBehind) (Nat.not_lt_of_le otherCovers.1)

/-- The last paint of a line over a column gives it the class that it has been given last. -/
theorem exists_lastOver_linePaints_iff :
    (∃ last,
        LastOver (linePaints grammar text incoming) column last ∧
          last.tokenClass = tokenClass) ↔
      GivenLast grammar text incoming column tokenClass := by
  have untouched :
      (∀ paint ∈ (scanConstructs grammar text incoming).1, ¬ paint.Covers column) ↔
        ∀ other, ¬ ConstructOver grammar text incoming column other := by
    simp only [constructOver_iff]
    grind
  rw [linePaints, GivenLast, ← exists_lastOver_scanConstructs_iff, ← untouched,
    ← exists_lastOver_flatMap_rulePaints_iff]
  simp only [LastOver, isLastWith_append, or_and_right, exists_or, and_assoc,
    exists_and_left]

end Sources

/-- A construct that is open and does not close takes the whole line. -/
theorem lineSpans_of_unclosed
    {grammar : Grammar}
    {text : List Char}
    {incoming : CarryState}
    {construct : Construct}
    (isOpen : incoming.bind grammar.construct? = some construct)
    (closesNowhere : ¬ construct.closing <:+: text)
    (notEmpty : text ≠ [])
    (isNotPlain : construct.tokenClass ≠ .plain) :
    lineSpans grammar text incoming = [⟨0, text.length, construct.tokenClass⟩] := by
  obtain ⟨width, isLength⟩ := Nat.exists_eq_add_one.mpr (List.length_pos_iff.mpr notEmpty)
  have scanned :
      (scanConstructs grammar text incoming).1 =
        [⟨0, text.length, construct.tokenClass⟩] := by
    rw [scanConstructs, scanConstructs?, isOpen]
    simp only [Text.indexOf?_eq_none_iff.mpr closesNowhere, Option.getD_some]
  have classes :
      columnClasses text.length (linePaints grammar text incoming) =
        List.replicate (width + 1) (some construct.tokenClass) := by
    rw [linePaints, scanned, columnClasses, List.foldl_append, ← columnClasses,
      List.foldl_cons, List.foldl_nil, layOn_whole (length_columnClasses _ _), isLength]
  rw [lineSpans_eq, classes, spansFrom_replicate isNotPlain, isLength, Nat.zero_add]

/--
The spans of a line are what its paints leave to be seen, run by run.  A construct that is
open in front of the line and does not close in it takes all of a line that is not empty.
-/
theorem lineSpans_showsRuns
    (grammar : Grammar)
    (text : List Char)
    (incoming : CarryState) :
    (∀ span ∈ lineSpans grammar text incoming,
        span.start < span.stop ∧ span.stop ≤ text.length ∧ span.tokenClass ≠ .plain) ∧
      (lineSpans grammar text incoming).Pairwise
        (fun first second =>
          first.stop ≤ second.start ∧
            (first.stop = second.start → first.tokenClass ≠ second.tokenClass)) ∧
      (∀ column tokenClass,
        (∃ span ∈ lineSpans grammar text incoming,
            span.Covers column ∧ span.tokenClass = tokenClass) ↔
          tokenClass ≠ .plain ∧
            column < text.length ∧ GivenLast grammar text incoming column tokenClass) ∧
      ∀ construct,
        incoming.bind grammar.construct? = some construct →
          ¬ construct.closing <:+: text →
            text ≠ [] →
              construct.tokenClass ≠ .plain →
                lineSpans grammar text incoming =
                  [⟨0, text.length, construct.tokenClass⟩] := by
  have runs :=
    spansFrom_showsRuns 0 (columnClasses text.length (linePaints grammar text incoming))
  rw [lineSpans_eq]
  refine ⟨?_, runs.ordered, ?_, ?_⟩
  · intro span member
    have within := runs.within span member
    rw [length_columnClasses, Nat.zero_add] at within
    exact ⟨runs.notEmpty span member, within, runs.notPlain span member⟩
  · intro column tokenClass
    have shown := runs.shown column tokenClass
    rw [getElem?_columnClasses_eq_some_iff, exists_lastOver_linePaints_iff,
      Nat.zero_add] at shown
    exact shown
  · intro construct isOpen closesNowhere notEmpty isNotPlain
    rw [← lineSpans_eq]
    exact lineSpans_of_unclosed isOpen closesNowhere notEmpty isNotPlain

/-- A grammar of comments that may go over several lines, and of one letter of two bytes. -/
def commentGrammar : Grammar where
  name := "comments"
  commentMarker := ['/', '/']
  rules := [⟨"é", .literal ['é'], 0, .string⟩]
  constructs := [⟨['/', '*'], ['*', '/'], .comment⟩]

/--
A comment that opens on a line covers the letter in it, and not those around it.  A line
inside a comment is one span, even if another one seems to open in it.
-/
theorem lineSpans_around_comment :
    let line := "é/*é*/é".toList
    lineSpans commentGrammar line none =
        [⟨0, 1, .string⟩, ⟨1, 6, .comment⟩, ⟨6, 7, .string⟩] ∧
      GivenLast commentGrammar line none 3 .comment ∧
        (∃ span ∈ lineSpans commentGrammar line none,
          span.Covers 3 ∧ span.tokenClass = .comment) ∧
          lineSpans commentGrammar "é /* b".toList (some 1) = [⟨0, 6, .comment⟩] := by
  intro line
  have opens : constructStep commentGrammar line = .closed 1 6 .comment := by
    decide
  have opensNothing : constructStep commentGrammar ['é'] = .outside := by
    decide
  have scanned :
      scanConstructs? commentGrammar line none = some ([⟨1, 6, .comment⟩], none) := by
    show commentGrammar.scanOn? [] 0 line = _
    rw [Grammar.scanOn?, opens]
    show commentGrammar.scanOn? [⟨1, 6, .comment⟩] 6 ['é'] = _
    rw [Grammar.scanOn?, opensNothing]
    rfl
  have given : GivenLast commentGrammar line none 3 .comment :=
    .inl ⟨_, scanConstructs?_iff.mp ⟨none, scanned⟩, _, List.mem_cons_self, by decide, rfl⟩
  refine ⟨?_, given, ?_, ?_⟩
  · rw [lineSpans_eq, linePaints, scanConstructs, scanned]
    decide +kernel
  · exact ((lineSpans_showsRuns commentGrammar line none).2.2.1 3 .comment).mpr
      ⟨by decide, by decide, given⟩
  · exact (lineSpans_showsRuns commentGrammar "é /* b".toList (some 1)).2.2.2
      ⟨['/', '*'], ['*', '/'], .comment⟩ rfl (by decide) (by decide) (by decide)

end Highlight

end ChordEditor
