import ChordEditor.Proofs.Highlight.Holders

namespace ChordEditor

/-!
# Rounds of a scan

A scan goes on from round to round.  Each one finds the construct that opens first
(`earliestOpen?_of_opening`) and goes on behind its closing delimiter.  It goes on further
behind unless both delimiters are empty (`stop_eq_zero_iff`), so a scan for constructs that
each take some characters comes to its end (`exists_scanOn?`).

What has been painted before stays in front of what is painted then (`exists_found_of_scanOn?`).
-/

/-- A construct with two empty delimiters, which takes no characters. -/
def Construct.TakesNothing (construct : Construct) : Prop :=
  construct.opening = [] ∧ construct.closing = []

namespace Highlight

variable {grammar : Grammar} {text : List Char}

section Earliest

variable {constructs : List Construct}

/-- The earlier of two openings; of two at one place, the first one looked at. -/
def nearer
    (text : List Char)
    (earliest : Option (Nat × Nat))
    (holder : Holder constructs) : Option (Nat × Nat) :=
  match Text.indexOf? holder.construct.opening text, earliest with
  | none, _ => earliest
  | some place, none => some (place, holder.number)
  | some place, some (earlier, number) =>
      if place < earlier then some (place, holder.number) else some (earlier, number)

/-- The earliest opening is searched for construct by construct. -/
theorem earliestOpen?_eq
    (text : List Char) :
    earliestOpen? constructs text =
      (List.finRange constructs.length).foldl
        (fun earliest (holder : Holder constructs) => nearer text earliest holder) none := by
  have entries :
      constructs.zipIdx =
        (List.finRange constructs.length).map fun holder : Holder constructs =>
          (holder.construct, holder.val) := by
    apply List.ext_getElem
    · simp
    · intro index inTable inRange
      simp [Holder.construct]
  rw [earliestOpen?, entries, List.foldl_map]
  rfl

/-- The nearer opening is the earliest so far, or the first one of the next construct. -/
theorem nearer_cases
    (text : List Char)
    (earliest : Option (Nat × Nat))
    (holder : Holder constructs) :
    nearer text earliest holder = earliest ∨
      ∃ place,
        Text.indexOf? holder.construct.opening text = some place ∧
          nearer text earliest holder = some (place, holder.number) := by
  unfold nearer
  split
  · exact .inl rfl
  · rename_i found
    exact .inr ⟨_, found, rfl⟩
  · rename_i found
    split
    · exact .inr ⟨_, found, rfl⟩
    · exact .inl rfl

theorem foldl_nearer_of_start
    (table : List (Holder constructs))
    (number : Nat) :
    table.foldl (nearer text) (some (0, number)) = some (0, number) := by
  induction table with
  | nil =>
      rfl
  | cons holder table inductionHypothesis =>
      have stays : nearer text (some (0, number)) holder = some (0, number) := by
        unfold nearer
        cases Text.indexOf? holder.construct.opening text <;> rfl
      rw [List.foldl_cons, stays, inductionHypothesis]

theorem foldl_nearer_of_opening
    {holder : Holder constructs}
    {table : List (Holder constructs)}
    {earliest : Option (Nat × Nat)}
    (opens :
      table.find? (fun holder => holder.construct.opening.isPrefixOf text) = some holder)
    (notAtStart : ∀ place number, earliest = some (place, number) → 0 < place) :
    table.foldl (nearer text) earliest = some (0, holder.number) := by
  induction table generalizing earliest with
  | nil =>
      cases opens
  | cons first table inductionHypothesis =>
      rw [List.foldl_cons]
      rw [List.find?_cons] at opens
      split at opens
      · rename_i begins
        cases opens
        have isEarliest : nearer text earliest holder = some (0, holder.number) := by
          unfold nearer
          rw [Text.indexOf?_eq_zero_iff.mpr begins]
          cases earliest with
          | none =>
              rfl
          | some found =>
              exact if_pos (notAtStart _ _ rfl)
        rw [isEarliest, foldl_nearer_of_start]
      · rename_i beginsNot
        apply inductionHypothesis opens
        intro place number isEarliest
        rcases nearer_cases text earliest first with same | ⟨next, found, isNext⟩
        · exact notAtStart place number (same.symm.trans isEarliest)
        · cases isNext.symm.trans isEarliest
          apply Nat.pos_of_ne_zero
          rintro rfl
          rw [Text.indexOf?_eq_zero_iff, beginsNot] at found
          cases found

/-- Constructs that do not open at the start open as they do behind its first character. -/
theorem foldl_nearer_of_not_opening
    {c : Char}
    {table : List (Holder constructs)}
    {earliest : Option (Nat × Nat)}
    (opensNothing :
      table.find? (fun holder => holder.construct.opening.isPrefixOf (c :: text)) = none) :
    table.foldl (nearer (c :: text)) (earliest.map (Prod.map (· + 1) id)) =
      (table.foldl (nearer text) earliest).map (Prod.map (· + 1) id) := by
  induction table generalizing earliest with
  | nil =>
      rfl
  | cons first table inductionHypothesis =>
      rw [List.find?_cons] at opensNothing
      split at opensNothing
      · cases opensNothing
      · rename_i beginsNot
        have step :
            nearer (c :: text) (earliest.map (Prod.map (· + 1) id)) first =
              (nearer text earliest first).map (Prod.map (· + 1) id) := by
          unfold nearer
          rw [Text.indexOf?, beginsNot]
          cases Text.indexOf? first.construct.opening text with
          | none =>
              rfl
          | some place =>
              cases earliest with
              | none =>
                  rfl
              | some found =>
                  by_cases isNearer : place < found.1 <;> simp [isNearer, Prod.map]
        rw [List.foldl_cons, List.foldl_cons, step, inductionHypothesis opensNothing]

theorem earliestOpen?_of_opening
    {holder : Holder constructs}
    (opens : opening? constructs text = some holder) :
    earliestOpen? constructs text = some (0, holder.number) := by
  rw [earliestOpen?_eq]
  exact foldl_nearer_of_opening opens nofun

theorem earliestOpen?_of_not_opening
    {c : Char}
    (opensNothing : opening? constructs (c :: text) = none) :
    earliestOpen? constructs (c :: text) =
      (earliestOpen? constructs text).map (Prod.map (· + 1) id) := by
  rw [earliestOpen?_eq, earliestOpen?_eq]
  exact @foldl_nearer_of_not_opening _ _ _ _ none opensNothing

theorem earliestOpen?_nil
    (withinLines : WithinLines constructs) :
    earliestOpen? constructs [] = none := by
  rw [earliestOpen?_eq]
  induction List.finRange constructs.length with
  | nil =>
      rfl
  | cons holder table inductionHypothesis =>
      have stays : nearer [] none holder = none := by
        unfold nearer
        rw [Text.indexOf?_nil (withinLines.opening_ne_nil _ (Holder.construct_mem holder))]
      rw [List.foldl_cons, stays, inductionHypothesis]

/-- What opens first is a construct of the table, and opens where its delimiter occurs first. -/
theorem exists_holder_of_earliestOpen?
    {place number : Nat}
    (found : earliestOpen? constructs text = some (place, number)) :
    ∃ holder : Holder constructs,
      holder.number = number ∧
        Text.indexOf? holder.construct.opening text = some place := by
  have kept :
      ∀ earliest : Option (Nat × Nat),
        (∀ place number, earliest = some (place, number) →
          ∃ holder : Holder constructs,
            holder.number = number ∧
              Text.indexOf? holder.construct.opening text = some place) →
        ∀ table : List (Holder constructs),
          table.foldl (nearer text) earliest = some (place, number) →
            ∃ holder : Holder constructs,
              holder.number = number ∧
                Text.indexOf? holder.construct.opening text = some place := by
    intro earliest known table
    induction table generalizing earliest with
    | nil =>
        exact known place number
    | cons first table inductionHypothesis =>
        apply inductionHypothesis
        intro place number isEarliest
        rcases nearer_cases text earliest first with same | ⟨next, opens, isNext⟩
        · exact known place number (same.symm.trans isEarliest)
        · cases isNext.symm.trans isEarliest
          exact ⟨first, rfl, opens⟩
  rw [earliestOpen?_eq] at found
  exact kept none nofun _ found

end Earliest

/-- The construct that opens at the start of a text takes no characters. -/
def StaysAt (grammar : Grammar) (text : List Char) : Prop :=
  ∃ holder, opening? grammar.constructs text = some holder ∧ holder.construct.TakesNothing

/-- A round of the scan of a line: the place where it begins, and the one where it goes on. -/
def Round (grammar : Grammar) (line : List Char) (place next : Nat) : Prop :=
  ∃ start stop tokenClass,
    constructStep grammar (line.drop place) = .closed start stop tokenClass ∧
      next = place + stop

section Step

variable {start stop : Nat} {tokenClass : TokenClass}

/-- What is opened and closed in a round. -/
theorem exists_taken
    (closes : constructStep grammar text = .closed start stop tokenClass) :
    ∃ (holder : Holder grammar.constructs) (offset : Nat),
      earliestOpen? grammar.constructs text = some (start, holder.number) ∧
        Text.indexOf? holder.construct.opening text = some start ∧
        Text.indexOf? holder.construct.closing
            (text.drop (start + holder.construct.opening.length)) =
          some offset ∧
        stop =
          start + holder.construct.opening.length + offset +
            holder.construct.closing.length := by
  unfold constructStep at closes
  cases found : earliestOpen? grammar.constructs text with
  | none =>
      simp [found] at closes
  | some opening =>
      obtain ⟨place, number⟩ := opening
      obtain ⟨holder, rfl, opens⟩ := exists_holder_of_earliestOpen? found
      simp only [found, holder.construct?_number] at closes
      split at closes
      · contradiction
      · rename_i offset closesThere
        cases closes
        exact ⟨holder, offset, rfl, opens, closesThere, rfl⟩

/-- A round goes on within the line. -/
theorem stop_le_length
    (closes : constructStep grammar text = .closed start stop tokenClass) :
    stop ≤ text.length := by
  obtain ⟨holder, offset, _, opens, closesThere, rfl⟩ := exists_taken closes
  have openingFits := Text.indexOf?_bound opens
  have closingFits := Text.indexOf?_bound closesThere
  rw [List.length_drop] at closingFits
  omega

/-- The empty text is found where one begins to look for it. -/
theorem indexOf?_empty (text : List Char) : Text.indexOf? [] text = some 0 :=
  Text.indexOf?_eq_zero_iff.mpr rfl

/-- Where a construct opens that takes no characters it is closed at once. -/
theorem constructStep_of_staysAt
    (stays : StaysAt grammar text) :
    ∃ tokenClass, constructStep grammar text = .closed 0 0 tokenClass := by
  obtain ⟨holder, opens, noOpening, noClosing⟩ := stays
  refine ⟨holder.construct.tokenClass, ?_⟩
  rw [constructStep, earliestOpen?_of_opening opens]
  simp only [holder.construct?_number, noOpening, noClosing, indexOf?_empty,
    List.length_nil, Nat.add_zero]

/-- A round goes on where it began exactly if it takes a construct of no characters. -/
theorem stop_eq_zero_iff
    (closes : constructStep grammar text = .closed start stop tokenClass) :
    stop = 0 ↔ StaysAt grammar text := by
  constructor
  · rintro rfl
    obtain ⟨holder, offset, found, opens, closesThere, isStop⟩ := exists_taken closes
    have noOpening : holder.construct.opening = [] :=
      List.length_eq_zero_iff.mp (by omega)
    have noClosing : holder.construct.closing = [] :=
      List.length_eq_zero_iff.mp (by omega)
    -- It is also the first construct of the table to open here.
    have begins : holder.construct.opening <+: text := by
      rw [noOpening]
      exact List.nil_prefix
    obtain ⟨first, opensFirst⟩ := exists_opening? holder.construct_mem begins
    rw [earliestOpen?_of_opening opensFirst] at found
    obtain ⟨_, sameNumber⟩ := Prod.mk.inj (Option.some.inj found)
    have same : first = holder := Fin.ext (Nat.succ.inj sameNumber)
    exact ⟨holder, same ▸ opensFirst, noOpening, noClosing⟩
  · intro stays
    obtain ⟨other, closesHere⟩ := constructStep_of_staysAt stays
    cases closes.symm.trans closesHere
    rfl

end Step

section Scan

variable {line : List Char} {painted : List Paint} {column place : Nat}

/-- A scan that comes to an end never stays where it is. -/
theorem not_staysAt_of_scanOn?
    {scanned : List Paint × CarryState}
    (ends : grammar.scanOn? painted column text = some scanned) :
    ¬ StaysAt grammar text := by
  refine
    Grammar.scanOn?.partial_correctness grammar (fun _ _ text _ => ¬ StaysAt grammar text)
      ?_ painted column text scanned ends
  intro goOn inductionHypothesis painted column text scanned ends stays
  obtain ⟨tokenClass, closesHere⟩ := constructStep_of_staysAt stays
  simp only [closesHere, Nat.lt_irrefl, if_false, List.drop_zero] at ends
  exact inductionHypothesis _ _ _ _ ends stays

/-- A scan comes to an end exactly if no round that it comes to stays where it is. -/
theorem exists_scanOn?_iff :
    (∃ scanned, grammar.scanOn? painted column (line.drop place) = some scanned) ↔
      ∀ next,
        Relation.ReflTransGen (Round grammar line) place next →
          ¬ StaysAt grammar (line.drop next) := by
  constructor
  · rintro ⟨scanned, ends⟩ next comes
    induction comes using Relation.ReflTransGen.head_induction_on
        generalizing painted column with
    | refl =>
        exact not_staysAt_of_scanOn? ends
    | head round _ inductionHypothesis =>
        obtain ⟨start, stop, tokenClass, closes, rfl⟩ := round
        rw [Grammar.scanOn?, closes] at ends
        simp only [List.drop_drop] at ends
        exact inductionHypothesis ends
  · intro neverStays
    -- Each round that goes on leaves less of the line.
    induction width : (line.drop place).length using Nat.strong_induction_on
        generalizing painted column place with
    | _ width inductionHypothesis =>
        rw [Grammar.scanOn?]
        cases step : constructStep grammar (line.drop place) with
        | outside =>
            exact ⟨_, rfl⟩
        | unclosed start number tokenClass =>
            exact ⟨_, rfl⟩
        | closed start stop tokenClass =>
            have moves : stop ≠ 0 := fun stays =>
              neverStays place .refl ((stop_eq_zero_iff step).mp stays)
            have within := stop_le_length step
            have round : Round grammar line place (place + stop) :=
              ⟨start, stop, tokenClass, step, rfl⟩
            simp only [List.drop_drop]
            apply inductionHypothesis (line.drop (place + stop)).length
            · rw [← width, ← List.drop_drop, List.length_drop]
              omega
            · exact fun next comes => neverStays next (.head round comes)
            · rfl

/-- A scan for constructs that take some characters each comes to an end. -/
theorem exists_scanOn?
    (takesSome : ∀ construct ∈ grammar.constructs, ¬ construct.TakesNothing)
    (painted : List Paint)
    (column : Nat)
    (text : List Char) :
    ∃ scanned, grammar.scanOn? painted column text = some scanned := by
  rw [← List.drop_zero (l := text), exists_scanOn?_iff]
  rintro next - ⟨holder, -, takesNothing⟩
  exact takesSome _ holder.construct_mem takesNothing

/-- What a scan finds comes behind what has been painted before it, whatever that is. -/
theorem exists_found_of_scanOn?
    {paints : List Paint}
    {carry : CarryState}
    (ends : grammar.scanOn? painted column text = some (paints, carry)) :
    ∃ found,
      paints = painted.reverse ++ found ∧
        ∀ before,
          grammar.scanOn? before column text = some (before.reverse ++ found, carry) := by
  refine
    Grammar.scanOn?.partial_correctness grammar
      (fun painted column text scanned =>
        ∃ found,
          scanned.1 = painted.reverse ++ found ∧
            ∀ before,
              grammar.scanOn? before column text =
                some (before.reverse ++ found, scanned.2))
      ?_ painted column text (paints, carry) ends
  intro goOn inductionHypothesis painted column text scanned ends
  cases step : constructStep grammar text with
  | outside =>
      simp only [step, Option.some.injEq] at ends
      subst ends
      exact ⟨[], by simp, fun before => by simp [Grammar.scanOn?, step]⟩
  | unclosed start number tokenClass =>
      simp only [step, Option.some.injEq] at ends
      subst ends
      exact
        ⟨[⟨column + start, column + text.length, tokenClass⟩], by simp, fun before => by
          simp [Grammar.scanOn?, step]⟩
  | closed start stop tokenClass =>
      simp only [step] at ends
      obtain ⟨found, isFound, anyBefore⟩ := inductionHypothesis _ _ _ _ ends
      by_cases takes : start < stop
      · rw [if_pos takes] at isFound
        refine ⟨⟨column + start, column + stop, tokenClass⟩ :: found, ?_, ?_⟩
        · simpa using isFound
        · intro before
          simp [Grammar.scanOn?, step, takes, anyBefore]
      · rw [if_neg takes] at isFound
        refine ⟨found, isFound, ?_⟩
        intro before
        simp [Grammar.scanOn?, step, takes, anyBefore]

end Scan

end Highlight

end ChordEditor
