import ChordEditor.Proofs.Highlight.Rounds

namespace ChordEditor.Highlight

/-!
# Whether scans end

The scan of a line comes from place to place, one round after the other.  As long as no
round stays where it is each place lies behind the one before, so there are no more rounds
that go on than the line has characters.  A round that stays is the last one ever begun.

Whether it can come to that is seen from the table: the first construct with an empty
opening delimiter opens at the end of every line that the scan comes to the end of
(`scan_ends_iff`).
-/

/--
Where the first round of a scan begins, unless a construct that is open in front of the
line goes on through all of it.
-/
def firstPlace?
    (grammar : Grammar)
    (line : List Char)
    (incoming : CarryState) : Option Nat :=
  match incoming.bind grammar.construct? with
  | none => some 0
  | some construct =>
      (Text.indexOf? construct.closing line).map (· + construct.closing.length)

/-- The places to which a scan comes, each with the number of rounds that lead there. -/
inductive ComesTo (grammar : Grammar) (line : List Char) (incoming : CarryState) :
    Nat → Nat → Prop
  | first {place : Nat} :
      firstPlace? grammar line incoming = some place → ComesTo grammar line incoming 0 place
  | round {count place next : Nat} :
      ComesTo grammar line incoming count place →
        Round grammar line place next → ComesTo grammar line incoming (count + 1) next

/-- A scan that comes to an end, and finds something or nothing. -/
def Ends (grammar : Grammar) (line : List Char) (incoming : CarryState) : Prop :=
  ∃ scanned, scanConstructs? grammar line incoming = some scanned

/-- No round that a scan comes to stays where it is. -/
def NeverStays (grammar : Grammar) (line : List Char) (incoming : CarryState) : Prop :=
  ∀ count place,
    ComesTo grammar line incoming count place → ¬ StaysAt grammar (line.drop place)

variable
  {grammar : Grammar}
  {line : List Char}
  {incoming : CarryState}
  {count place next : Nat}

namespace Round

theorem le
    (round : Round grammar line place next) :
    place ≤ next := by
  obtain ⟨start, stop, tokenClass, closes, rfl⟩ := round
  exact Nat.le_add_right _ _

theorem le_length
    (round : Round grammar line place next)
    (inLine : place ≤ line.length) :
    next ≤ line.length := by
  obtain ⟨start, stop, tokenClass, closes, rfl⟩ := round
  have within := stop_le_length closes
  rw [List.length_drop] at within
  omega

/-- A round goes on further behind unless it stays. -/
theorem lt_iff
    (round : Round grammar line place next) :
    place < next ↔ ¬ StaysAt grammar (line.drop place) := by
  obtain ⟨start, stop, tokenClass, closes, rfl⟩ := round
  rw [← stop_eq_zero_iff closes]
  omega

end Round

theorem firstPlace?_le_length
    (isFirst : firstPlace? grammar line incoming = some place) :
    place ≤ line.length := by
  unfold firstPlace? at isFirst
  split at isFirst
  · cases isFirst
    exact Nat.zero_le _
  · obtain ⟨offset, closes, rfl⟩ := Option.map_eq_some_iff.mp isFirst
    exact Text.indexOf?_bound closes

namespace ComesTo

theorem le_length
    (comes : ComesTo grammar line incoming count place) :
    place ≤ line.length := by
  induction comes with
  | first isFirst =>
      exact firstPlace?_le_length isFirst
  | round _ round inductionHypothesis =>
      exact round.le_length inductionHypothesis

/-- Rounds that never stay lead at least one character further each. -/
theorem count_le
    (comes : ComesTo grammar line incoming count place)
    (neverStays : NeverStays grammar line incoming) :
    count ≤ place := by
  induction comes with
  | first _ =>
      exact Nat.zero_le _
  | round comes round inductionHypothesis =>
      exact Nat.lt_of_le_of_lt inductionHypothesis (round.lt_iff.mpr (neverStays _ _ comes))

theorem goesOn
    (comes : ComesTo grammar line incoming count place)
    (rounds : Relation.ReflTransGen (Round grammar line) place next) :
    ∃ count, ComesTo grammar line incoming count next := by
  induction rounds with
  | refl =>
      exact ⟨count, comes⟩
  | tail _ round inductionHypothesis =>
      obtain ⟨count, comes⟩ := inductionHypothesis
      exact ⟨count + 1, .round comes round⟩

theorem exists_rounds
    (comes : ComesTo grammar line incoming count next) :
    ∃ place,
      firstPlace? grammar line incoming = some place ∧
        Relation.ReflTransGen (Round grammar line) place next := by
  induction comes with
  | first isFirst =>
      exact ⟨_, isFirst, .refl⟩
  | round _ round inductionHypothesis =>
      obtain ⟨place, isFirst, rounds⟩ := inductionHypothesis
      exact ⟨place, isFirst, .tail rounds round⟩

end ComesTo

/-- What the first round begins at decides whether a scan comes to a round that stays. -/
theorem neverStays_iff
    (isFirst : firstPlace? grammar line incoming = some place) :
    NeverStays grammar line incoming ↔
      ∀ next,
        Relation.ReflTransGen (Round grammar line) place next →
          ¬ StaysAt grammar (line.drop next) := by
  constructor
  · intro neverStays next rounds
    obtain ⟨count, comes⟩ := (ComesTo.first isFirst).goesOn rounds
    exact neverStays count next comes
  · intro neverStays count next comes
    obtain ⟨first, isFirst', rounds⟩ := comes.exists_rounds
    cases isFirst.symm.trans isFirst'
    exact neverStays next rounds

/-- A scan ends exactly if it never comes to a round that stays. -/
theorem ends_iff : Ends grammar line incoming ↔ NeverStays grammar line incoming := by
  unfold Ends scanConstructs?
  cases isOpen : incoming.bind grammar.construct? with
  | none =>
      have isFirst : firstPlace? grammar line incoming = some 0 := by
        rw [firstPlace?, isOpen]
      rw [neverStays_iff isFirst]
      show (∃ scanned, grammar.scanOn? [] 0 (line.drop 0) = some scanned) ↔ _
      exact exists_scanOn?_iff
  | some construct =>
      cases closes : Text.indexOf? construct.closing line with
      | none =>
          have noRound : firstPlace? grammar line incoming = none := by
            rw [firstPlace?, isOpen]
            simp [closes]
          refine iff_of_true (by simp [closes]) ?_
          intro count place comes
          obtain ⟨first, isFirst, _⟩ := comes.exists_rounds
          rw [noRound] at isFirst
          contradiction
      | some offset =>
          have isFirst :
              firstPlace? grammar line incoming =
                some (offset + construct.closing.length) := by
            rw [firstPlace?, isOpen]
            simp [closes]
          rw [neverStays_iff isFirst]
          simp only [closes]
          exact exists_scanOn?_iff

/--
The scans of a grammar.  A round leads further behind in its line unless the construct that
opens there has two empty delimiters.  A scan that comes to such a construct never ends; any
other ends, after no more rounds that go on than its line has characters.  So all scans end
exactly if the first construct of the table with an empty opening delimiter, if there is
one, has a closing one.
-/
theorem scan_ends_iff (grammar : Grammar) :
    (∀ line place next,
        place ≤ line.length →
          Round grammar line place next →
            next ≤ line.length ∧
              place ≤ next ∧ (place < next ↔ ¬ StaysAt grammar (line.drop place))) ∧
      (∀ line incoming,
        (Ends grammar line incoming ↔ NeverStays grammar line incoming) ∧
          (Ends grammar line incoming →
            ∀ count place,
              ComesTo grammar line incoming count place → count ≤ line.length)) ∧
      ((∀ line incoming, Ends grammar line incoming) ↔
        ∀ holder,
          opening? grammar.constructs [] = some holder → holder.construct.closing ≠ []) := by
  refine ⟨?_, ?_, ?_, ?_⟩
  · intro line place next inLine round
    exact ⟨round.le_length inLine, round.le, round.lt_iff⟩
  · intro line incoming
    refine ⟨ends_iff, ?_⟩
    intro ends count place comes
    exact Nat.le_trans (comes.count_le (ends_iff.mp ends)) comes.le_length
  · intro allEnd holder opens noClosing
    -- The scan of the empty line stays at its start.
    have noOpening := List.prefix_nil.mp (prefix_of_opening? opens)
    have stays : StaysAt grammar (([] : List Char).drop 0) :=
      ⟨holder, opens, noOpening, noClosing⟩
    exact ends_iff.mp (allEnd [] none) 0 0 (.first rfl) stays
  · intro closesSome line incoming
    rw [ends_iff]
    rintro count place - ⟨holder, opens, noOpening, noClosing⟩
    have opensAtEnd := opening?_opening opens
    rw [noOpening] at opensAtEnd
    exact closesSome holder opensAtEnd noClosing

/-- A grammar with one construct, both of whose delimiters are empty. -/
def endlessGrammar : Grammar where
  name := "endless"
  commentMarker := ['#']
  constructs := [⟨[], [], .string⟩]

/-- A grammar can be built whose scans do not end, not even on an empty line. -/
theorem empty_delimiters_never_end :
    Grammar.ofParts "endless" "#" [.construct "" "" .string] = .ok endlessGrammar ∧
      scanConstructs? endlessGrammar [] none = none := by
  refine ⟨rfl, Option.eq_none_iff_forall_ne_some.mpr fun scanned ends => ?_⟩
  have neverStays := ((scan_ends_iff endlessGrammar).2.1 [] none).1.mp ⟨scanned, ends⟩
  have stays : StaysAt endlessGrammar (([] : List Char).drop 0) :=
    ⟨⟨0, Nat.one_pos⟩, rfl, rfl, rfl⟩
  exact neverStays 0 0 (.first rfl) stays

end ChordEditor.Highlight
