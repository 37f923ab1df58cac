import ChordEditor.Proofs.Text.Occurrences

namespace ChordEditor.Text

/-!
# Texts in which a needle is replaced

Replacing a needle from left to right is said here without any search: the text is cut
around the first occurrence, that is replaced, and the rest is done behind it, so that
what a replacement brings in is never looked at (`Replaced`).  The places that the search
gives are those of these cuts.

What is replaced in two texts is replaced in the text that they make up, if no occurrence
lies across the place where they meet.
-/

/-- A text cut up around the first place where a needle occurs. -/
structure FirstCut (needle text before after : List Char) : Prop where
  text_eq : text = before ++ needle ++ after
  first :
    ∀ earlier later, text = earlier ++ needle ++ later → before.length ≤ earlier.length

/--
The second text is the first one with a needle replaced, from left to right everywhere or
only once, and the number says how often.
-/
inductive Replaced
    (everywhere : Bool)
    (needle replacement : List Char) : List Char → List Char → Nat → Prop where
  | nowhere
      {text : List Char}
      (absent : ¬ needle <:+: text) :
      Replaced everywhere needle replacement text text 0
  | once
      {text before after : List Char}
      (cut : FirstCut needle text before after)
      (onlyOnce : everywhere = false) :
      Replaced everywhere needle replacement text (before ++ replacement ++ after) 1
  | further
      {text before after others : List Char}
      {count : Nat}
      (cut : FirstCut needle text before after)
      (goesOn : everywhere = true)
      (behind : Replaced everywhere needle replacement after others count) :
      Replaced everywhere needle replacement text (before ++ replacement ++ others) (count + 1)

variable {everywhere : Bool} {needle replacement text before after : List Char}

/-- A needle that occurs has a first occurrence. -/
theorem exists_firstCut (occurs : needle <:+: text) :
    ∃ before after, FirstCut needle text before after := by
  induction text with
  | nil =>
      obtain rfl := List.infix_nil.mp occurs
      exact ⟨[], [], rfl, fun _ _ _ => Nat.zero_le _⟩
  | cons c rest inductionHypothesis =>
      by_cases begins : needle <+: c :: rest
      · obtain ⟨after, shape⟩ := begins
        exact ⟨[], after, shape.symm, fun _ _ _ => Nat.zero_le _⟩
      · rcases List.infix_cons_iff.mp occurs with here | further
        · contradiction
        · obtain ⟨before, after, isCut, first⟩ := inductionHypothesis further
          refine ⟨c :: before, after, congrArg (c :: ·) isCut, ?_⟩
          intro earlier later shape
          cases earlier with
          | nil =>
              exact absurd ⟨later, shape.symm⟩ begins
          | cons d earlier =>
              exact Nat.succ_le_succ (first earlier later (List.cons.inj shape).2)

/-- Behind its first character a text is cut at the same place, if that is not the first one. -/
theorem FirstCut.tail
    {c : Char}
    {rest : List Char}
    (cut : FirstCut needle (c :: rest) (c :: before) after) :
    ¬ needle <+: c :: rest ∧ FirstCut needle rest before after := by
  refine ⟨?_, (List.cons.inj cut.text_eq).2, ?_⟩
  · rintro ⟨later, shape⟩
    exact absurd (cut.first [] later shape.symm) (Nat.not_succ_le_zero _)
  · intro earlier later shape
    exact Nat.le_of_succ_le_succ (cut.first (c :: earlier) later (congrArg (c :: ·) shape))

/-- Every text can have a needle that is not empty replaced. -/
theorem exists_replaced
    (someNeedle : needle ≠ [])
    (everywhere : Bool)
    (replacement text : List Char) :
    ∃ replaced count, Replaced everywhere needle replacement text replaced count := by
  by_cases occurs : needle <:+: text
  · obtain ⟨before, after, cut⟩ := exists_firstCut occurs
    cases everywhere with
    | false =>
        exact ⟨_, _, .once cut rfl⟩
    | true =>
        have shorter : after.length < text.length := by
          have someLength := List.length_pos_iff.mpr someNeedle
          have whole := congrArg List.length cut.text_eq
          simp only [List.length_append] at whole
          omega
        obtain ⟨others, count, behind⟩ := exists_replaced someNeedle true replacement after
        exact ⟨_, _, .further cut rfl behind⟩
  · exact ⟨_, _, .nowhere occurs⟩
termination_by text.length

section Search

/-- The search for a needle does not depend on where it begins, but for what it skips. -/
theorem occurrencesFrom_beginsWith
    (width : Nat)
    (previous : Option Char)
    (text : List Char)
    (skip place : Nat) :
    occurrencesFrom (beginsWith needle) width previous text skip place =
      (occurrencesFrom (beginsWith needle) width none (text.drop skip) 0 0).map
        (place + skip + ·) := by
  induction text generalizing previous skip place with
  | nil =>
      cases skip <;> rfl
  | cons c rest inductionHypothesis =>
      cases skip with
      | succ skip =>
          have sameStart : place + 1 + skip = place + (skip + 1) := by
            omega
          rw [occurrencesFrom, inductionHypothesis, List.drop_succ_cons, sameStart]
      | zero =>
          have here (other : Option Char) :
              beginsWith needle other (c :: rest) = needle.isPrefixOf (c :: rest) :=
            rfl
          rw [List.drop_zero, occurrencesFrom, occurrencesFrom, here, here]
          split
          · rw [inductionHypothesis, inductionHypothesis (some c) (width - 1) (0 + 1),
              List.map_cons, List.map_map]
            congr 2
            funext found
            simp only [Function.comp_apply]
            omega
          · rw [inductionHypothesis, inductionHypothesis (some c) 0 (0 + 1), List.map_map]
            congr 1
            funext found
            simp only [Function.comp_apply]
            omega

/-- Where a needle begins the text is its first occurrence, and the others lie behind it. -/
theorem occurrences_append
    (someNeedle : needle ≠ [])
    (after : List Char) :
    occurrences needle (needle ++ after) =
      0 :: (occurrences needle after).map (needle.length + ·) := by
  obtain ⟨c, rest, rfl⟩ := List.exists_cons_of_ne_nil someNeedle
  have begins : beginsWith (c :: rest) none (c :: (rest ++ after)) = true :=
    List.isPrefixOf_iff_prefix.mpr (List.prefix_append (c :: rest) after)
  have width : 0 + 1 + ((c :: rest).length - 1) = (c :: rest).length := by
    rw [List.length_cons]
    omega
  rw [List.cons_append, occurrences, occurrencesFrom, if_pos begins, occurrencesFrom_beginsWith,
    width, List.length_cons, Nat.add_sub_cancel, List.drop_left]
  rfl

/-- Where a needle does not begin the text, it occurs behind the first character alone. -/
theorem occurrences_cons_of_absent_here
    {c : Char}
    {rest : List Char}
    (notHere : ¬ needle <+: c :: rest) :
    occurrences needle (c :: rest) = (occurrences needle rest).map (1 + ·) := by
  have begins : ¬ beginsWith needle none (c :: rest) = true := by
    intro begins
    exact notHere (List.isPrefixOf_iff_prefix.mp begins)
  rw [occurrences, occurrencesFrom, if_neg begins, occurrencesFrom_beginsWith]
  rfl

/-- A needle that does not occur is not found. -/
theorem occurrences_of_absent (absent : ¬ needle <:+: text) : occurrences needle text = [] := by
  induction text with
  | nil =>
      rfl
  | cons c rest inductionHypothesis =>
      rw [List.infix_cons_iff, not_or] at absent
      rw [occurrences_cons_of_absent_here absent.1, inductionHypothesis absent.2, List.map_nil]

/-- The first occurrence is found first, and then those behind it. -/
theorem occurrences_of_cut
    (someNeedle : needle ≠ [])
    (cut : FirstCut needle text before after) :
    occurrences needle text =
      before.length ::
        (occurrences needle after).map (before.length + needle.length + ·) := by
  induction before generalizing text with
  | nil =>
      obtain rfl : text = needle ++ after := cut.text_eq
      rw [occurrences_append someNeedle, List.length_nil, Nat.zero_add]
  | cons c before inductionHypothesis =>
      obtain rfl : text = c :: (before ++ needle ++ after) := cut.text_eq
      obtain ⟨notHere, cutBehind⟩ := cut.tail
      rw [occurrences_cons_of_absent_here notHere, inductionHypothesis cutBehind, List.map_cons,
        List.map_map, List.length_cons, Nat.add_comm 1]
      congr 2
      funext found
      simp only [Function.comp_apply]
      omega

/-- The places where a needle is replaced: where it is found, or the first one of them. -/
def replacedPlaces (everywhere : Bool) (needle text : List Char) : List Nat :=
  if everywhere then occurrences needle text else (occurrences needle text).take 1

theorem replacedPlaces_of_absent
    (absent : ¬ needle <:+: text) :
    replacedPlaces everywhere needle text = [] := by
  unfold replacedPlaces
  rw [occurrences_of_absent absent]
  cases everywhere <;> rfl

theorem replacedPlaces_once
    (someNeedle : needle ≠ [])
    (cut : FirstCut needle text before after) :
    replacedPlaces false needle text = [before.length] := by
  unfold replacedPlaces
  rw [occurrences_of_cut someNeedle cut]
  rfl

theorem replacedPlaces_further
    (someNeedle : needle ≠ [])
    (cut : FirstCut needle text before after) :
    replacedPlaces true needle text =
      before.length ::
        (replacedPlaces true needle after).map (before.length + needle.length + ·) :=
  occurrences_of_cut someNeedle cut

/-- A needle is replaced as often as there are places for it. -/
theorem Replaced.count_eq
    {result : List Char}
    {count : Nat}
    (replaced : Replaced everywhere needle replacement text result count)
    (someNeedle : needle ≠ []) :
    count = (replacedPlaces everywhere needle text).length := by
  induction replaced with
  | nowhere absent =>
      rw [replacedPlaces_of_absent absent]
      rfl
  | once cut onlyOnce =>
      subst onlyOnce
      rw [replacedPlaces_once someNeedle cut]
      rfl
  | further cut goesOn behind inductionHypothesis =>
      subst goesOn
      rw [replacedPlaces_further someNeedle cut, inductionHypothesis, List.length_cons,
        List.length_map]

end Search

/-- A text has only one first cut. -/
theorem FirstCut.unique
    {earlier later : List Char}
    (cut : FirstCut needle text before after)
    (other : FirstCut needle text earlier later) :
    before = earlier ∧ after = later := by
  have same : before ++ (needle ++ after) = earlier ++ (needle ++ later) := by
    rw [← List.append_assoc, ← cut.text_eq, other.text_eq, List.append_assoc]
  have sameLength : before.length = earlier.length :=
    Nat.le_antisymm (cut.first earlier later other.text_eq)
      (other.first before after cut.text_eq)
  obtain ⟨sameBefore, behind⟩ := List.append_inj same sameLength
  exact ⟨sameBefore, List.append_cancel_left behind⟩

theorem FirstCut.occurs (cut : FirstCut needle text before after) : needle <:+: text :=
  ⟨before, after, cut.text_eq.symm⟩

/-- What is replaced in a text, and how often, is settled. -/
theorem Replaced.unique
    {result other : List Char}
    {count number : Nat}
    (replaced : Replaced everywhere needle replacement text result count)
    (again : Replaced everywhere needle replacement text other number) :
    other = result ∧ number = count := by
  induction replaced generalizing other number with
  | nowhere absent =>
      cases again with
      | nowhere => exact ⟨rfl, rfl⟩
      | once cut => exact absurd cut.occurs absent
      | further cut => exact absurd cut.occurs absent
  | once cut onlyOnce =>
      cases again with
      | nowhere absent => exact absurd cut.occurs absent
      | once second =>
          obtain ⟨rfl, rfl⟩ := second.unique cut
          exact ⟨rfl, rfl⟩
      | further second goesOn =>
          rw [onlyOnce] at goesOn
          contradiction
  | further cut goesOn _ inductionHypothesis =>
      cases again with
      | nowhere absent => exact absurd cut.occurs absent
      | once second onlyOnce =>
          rw [onlyOnce] at goesOn
          contradiction
      | further second _ behind =>
          obtain ⟨rfl, rfl⟩ := second.unique cut
          obtain ⟨rfl, rfl⟩ := inductionHypothesis behind
          exact ⟨rfl, rfl⟩

section Meeting

variable {left right : List Char}

/-- No needle lies across the place where two texts meet. -/
def NoneAcross (needle left right : List Char) : Prop :=
  ∀ front back,
    needle = front ++ back → front <:+ left → back <+: right → front = [] ∨ back = []

/-- No needle lies across if what comes behind begins with a character that it does not have. -/
theorem noneAcross_of_head
    (notIn : ∀ c, right.head? = some c → c ∉ needle) :
    NoneAcross needle left right := by
  intro front back isNeedle _ begins
  cases back with
  | nil =>
      exact .inr rfl
  | cons c back =>
      obtain ⟨rest, rfl⟩ := begins
      have isIn : c ∈ needle := by
        rw [isNeedle]
        exact List.mem_append_right front List.mem_cons_self
      exact absurd isIn (notIn c rfl)

/-- No needle lies across if what comes before ends with a character that it does not have. -/
theorem noneAcross_of_last
    (notIn : ∀ c, left.getLast? = some c → c ∉ needle) :
    NoneAcross needle left right := by
  intro front back isNeedle ends _
  rcases List.eq_nil_or_concat front with rfl | ⟨first, c, rfl⟩
  · exact .inl rfl
  · obtain ⟨rest, rfl⟩ := ends
    have isIn : c ∈ needle := by
      simp [isNeedle]
    exact absurd isIn (notIn c (by simp))

theorem NoneAcross.of_suffix
    {earlier : List Char}
    (noneAcross : NoneAcross needle (earlier ++ left) right) :
    NoneAcross needle left right :=
  fun front back isNeedle ends =>
    noneAcross front back isNeedle (ends.trans (List.suffix_append earlier left))

/-- An occurrence lies in the text before or in the one behind if none lies across. -/
theorem NoneAcross.occurrence
    (noneAcross : NoneAcross needle left right)
    (shape : left ++ right = before ++ needle ++ after) :
    (∃ later, left = before ++ needle ++ later) ∨
      ∃ earlier, before = left ++ earlier ∧ right = earlier ++ needle ++ after := by
  rw [List.append_assoc, List.append_eq_append_iff] at shape
  rcases shape with ⟨earlier, isBefore, isRight⟩ | ⟨front, isLeft, goesOn⟩
  · exact .inr ⟨earlier, isBefore, by rw [isRight, List.append_assoc]⟩
  · rw [List.append_eq_append_iff] at goesOn
    rcases goesOn with ⟨later, isFront, _⟩ | ⟨back, isNeedle, isRight⟩
    · exact .inl ⟨later, by rw [isLeft, isFront, List.append_assoc]⟩
    · rcases noneAcross front back isNeedle ⟨before, isLeft.symm⟩ ⟨after, isRight.symm⟩ with
        rfl | rfl
      · right
        refine ⟨[], ?_, ?_⟩
        · simpa using isLeft.symm
        · rw [isRight, isNeedle]
          rfl
      · left
        refine ⟨[], ?_⟩
        rw [isNeedle, isLeft]
        simp

/-- The first occurrence of the text before is the first one of both. -/
theorem FirstCut.append
    (cut : FirstCut needle left before after)
    (noneAcross : NoneAcross needle left right) :
    FirstCut needle (left ++ right) before (after ++ right) := by
  refine ⟨by rw [cut.text_eq, List.append_assoc], ?_⟩
  intro earlier later shape
  rcases noneAcross.occurrence shape with ⟨more, isLeft⟩ | ⟨more, rfl, _⟩
  · exact cut.first earlier more isLeft
  · have fits := congrArg List.length cut.text_eq
    simp only [List.length_append] at fits ⊢
    omega

/-- The first occurrence of the text behind is the first one of both if there is none before. -/
theorem FirstCut.behind
    (cut : FirstCut needle right before after)
    (absent : ¬ needle <:+: left)
    (noneAcross : NoneAcross needle left right) :
    FirstCut needle (left ++ right) (left ++ before) after := by
  refine ⟨by simp [cut.text_eq], ?_⟩
  intro earlier later shape
  rcases noneAcross.occurrence shape with ⟨more, isLeft⟩ | ⟨more, rfl, isRight⟩
  · exact absurd ⟨earlier, more, isLeft.symm⟩ absent
  · rw [List.length_append, List.length_append]
    exact Nat.add_le_add_left (cut.first more later isRight) _

theorem not_infix_append
    (absentLeft : ¬ needle <:+: left)
    (absentRight : ¬ needle <:+: right)
    (noneAcross : NoneAcross needle left right) :
    ¬ needle <:+: left ++ right := by
  rintro ⟨earlier, later, shape⟩
  rcases noneAcross.occurrence shape.symm with ⟨more, isLeft⟩ | ⟨more, _, isRight⟩
  · exact absentLeft ⟨earlier, more, isLeft.symm⟩
  · exact absentRight ⟨more, later, isRight.symm⟩

/-- What is replaced in a text is replaced in a longer one if behind it there is no needle. -/
theorem Replaced.append_absent
    {result : List Char}
    {count : Nat}
    (replaced : Replaced everywhere needle replacement left result count)
    (absent : ¬ needle <:+: right)
    (noneAcross : NoneAcross needle left right) :
    Replaced everywhere needle replacement (left ++ right) (result ++ right) count := by
  induction replaced with
  | nowhere absentLeft =>
      exact .nowhere (not_infix_append absentLeft absent noneAcross)
  | once cut onlyOnce =>
      rw [List.append_assoc]
      exact .once (cut.append noneAcross) onlyOnce
  | further cut goesOn _ inductionHypothesis =>
      rw [List.append_assoc]
      refine .further (cut.append noneAcross) goesOn (inductionHypothesis ?_)
      rw [cut.text_eq] at noneAcross
      exact noneAcross.of_suffix

/-- What is replaced everywhere in two texts is replaced in both together. -/
theorem Replaced.append
    {leftResult rightResult : List Char}
    {leftCount rightCount : Nat}
    (leftReplaced : Replaced true needle replacement left leftResult leftCount)
    (rightReplaced : Replaced true needle replacement right rightResult rightCount)
    (noneAcross : NoneAcross needle left right) :
    Replaced true needle replacement (left ++ right) (leftResult ++ rightResult)
      (leftCount + rightCount) := by
  induction leftReplaced with
  | @nowhere left absent =>
      rw [Nat.zero_add]
      cases rightReplaced with
      | nowhere absentRight =>
          exact .nowhere (not_infix_append absent absentRight noneAcross)
      | once cut onlyOnce => contradiction
      | further cut goesOn behind =>
          rw [← List.append_assoc, ← List.append_assoc]
          exact .further (cut.behind absent noneAcross) rfl behind
  | once cut onlyOnce => contradiction
  | further cut goesOn _ inductionHypothesis =>
      rw [List.append_assoc, Nat.add_right_comm]
      refine .further (cut.append noneAcross) rfl (inductionHypothesis ?_)
      rw [cut.text_eq] at noneAcross
      exact noneAcross.of_suffix

end Meeting

end ChordEditor.Text
