import ChordEditor.Proofs.Dispatcher.Lookup
import ChordEditor.Proofs.Dispatcher.Steps
import Mathlib.Data.List.Chain
import Mathlib.Data.Nat.Digits.Defs

namespace ChordEditor

/-!
# Typing a chord

A digit can belong to the count or to the chord, a character can be the leader key or a
key of the chord, and a press can match the fragments of several chords.  What is typed
is still understood as it was meant: in an unambiguous table, digits and then presses
that spell a bound chord resolve to its action, with the count that the digits write
and the characters that were captured (`Dispatcher.bound_chord_resolves`).
-/

/-- The digit that the press types, if it types one. -/
def KeyEvent.digit? (event : KeyEvent) : Option Nat :=
  event.typedChar?.bind Text.digitValue?

/--
Presses that match fragments one by one, with the characters typed where a fragment
stands for any key; nowhere else do they type digits.
-/
inductive Spells : List Fragment → List KeyEvent → List Char → Prop where
  | nil :
      Spells [] [] []
  | key
      {fragment : Fragment}
      {event : KeyEvent}
      (isKey : fragment ≠ .any)
      (matched : (fragment.match? event).isSome)
      (noDigit : event.digit? = none)
      {fragments : List Fragment}
      {events : List KeyEvent}
      {literals : List Char}
      (rest : Spells fragments events literals) :
      Spells (fragment :: fragments) (event :: events) literals
  | captured
      {event : KeyEvent}
      {c : Char}
      (typed : event.typedChar? = some c)
      {fragments : List Fragment}
      {events : List KeyEvent}
      {literals : List Char}
      (rest : Spells fragments events literals) :
      Spells (.any :: fragments) (event :: events) (c :: literals)

theorem Spells.length_eq
    {fragments : List Fragment}
    {events : List KeyEvent}
    {literals : List Char}
    (spells : Spells fragments events literals) :
    events.length = fragments.length := by
  induction spells with
  | nil =>
      rfl
  | _ =>
      simp_all

/-- The first press that spells fragments matches the first of them. -/
theorem Spells.first
    {fragment : Fragment}
    {fragments : List Fragment}
    {events : List KeyEvent}
    {literals : List Char}
    (spells : Spells (fragment :: fragments) events literals) :
    ∃ event later c rest,
      events = event :: later ∧
        literals = (if fragment = .any then [c] else []) ++ rest ∧
        fragment.match? event = some c ∧
        (fragment = .any ∨ event.digit? = none) ∧
        Spells fragments later rest := by
  cases spells with
  | key isKey matched noDigit rest =>
      obtain ⟨c, matched⟩ := Option.isSome_iff_exists.mp matched
      exact ⟨_, _, c, _, rfl, by simp [isKey], matched, .inr noDigit, rest⟩
  | captured typed rest =>
      exact ⟨_, _, _, _, rfl, by simp, typed, .inl rfl, rest⟩

namespace DispatcherSettings

/-- Whether held fragments are kept between presses at two times. -/
def KeepsChord (settings : DispatcherSettings) (earlier later : Nat) : Prop :=
  settings.chordTimeout = 0 ∨ later - earlier ≤ settings.chordTimeout

/-- Whether a press can begin a chord: it is neither a digit nor the leader key. -/
def Begins (settings : DispatcherSettings) (event : KeyEvent) : Prop :=
  event.digit? = none ∧ event.typedChar? ≠ some settings.leader

end DispatcherSettings

namespace Dispatcher

variable
  {dispatcher : Dispatcher}
  {settings : DispatcherSettings}
  {event : KeyEvent}
  {tables : KeyTables}
  {mode : Mode}

/-- A dispatcher in front of a chord: nothing but the count is pending. -/
def counting
    (settings : DispatcherSettings)
    (count : Nat)
    (lastPress : Option Nat) : Dispatcher :=
  { settings, count, lastPress }

/-- Whether a press that matches is taken for the next one of the chord. -/
structure Awaits (dispatcher : Dispatcher) (event : KeyEvent) : Prop where
  unarmed : dispatcher.leaderSince = none
  begins : dispatcher.held = [] → dispatcher.settings.Begins event
  inTime :
    dispatcher.held ≠ [] →
      ∀ last ∈ dispatcher.lastPress, dispatcher.settings.KeepsChord last event.time

/-- A dispatcher that has nothing pending has the fields of a new one. -/
theorem ReachedFrom.eq_of_isIdle
    (reached : ReachedFrom settings dispatcher)
    (idle : dispatcher.isIdle = true) :
    dispatcher = counting settings 0 dispatcher.lastPress := by
  have sameSettings := reached.settings_eq
  obtain ⟨typed, literals⟩ := reached.consistent
  obtain ⟨_, held, _, _, count, leaderSince, lastPress⟩ := dispatcher
  simp only [isIdle, leaderArmed, Bool.and_eq_true, List.isEmpty_iff, beq_iff_eq,
    Bool.not_eq_true', Option.isSome_eq_false_iff, Option.isNone_iff_eq_none] at idle
  obtain ⟨⟨rfl, rfl⟩, rfl⟩ := idle
  simp_all [counting]

theorem step_of_counted
    {digit : Nat}
    (typed : event.digit? = some digit)
    (counts :
      dispatcher.countsDigit digit event
        (tables.table (.forMode mode dispatcher.leaderArmed)) = true) :
    dispatcher.step event tables mode = some (.pending, dispatcher.countDigit digit) := by
  have counted :
      ((event.typedChar?.bind Text.digitValue?).filter fun digit =>
        dispatcher.countsDigit digit event
          (tables.table (.forMode mode dispatcher.leaderArmed))) = some digit := by
    rw [← KeyEvent.digit?, typed, Option.filter_some, if_pos counts]
  simp [step, counted]

/-- A press that is neither the count's nor the leader key is tried against the chords. -/
theorem step_of_uncounted
    (uncounted : ∀ digit ∈ event.digit?,
      dispatcher.countsDigit digit event
        (tables.table (.forMode mode dispatcher.leaderArmed)) = false)
    (notLeader : dispatcher.isLeaderPress event = false) :
    dispatcher.step event tables mode =
      dispatcher.stepChord event (tables.table (.forMode mode dispatcher.leaderArmed)) := by
  have notCounted :
      ((event.typedChar?.bind Text.digitValue?).filter fun digit =>
        dispatcher.countsDigit digit event
          (tables.table (.forMode mode dispatcher.leaderArmed))) = none := by
    rw [← KeyEvent.digit?]
    simpa [Option.filter_eq_none_iff] using uncounted
  simp [step, notCounted, notLeader]

/-- Nothing is dropped before an awaited press. -/
theorem Awaits.arriving_eq
    (awaits : dispatcher.Awaits event) :
    dispatcher.arriving event.time = { dispatcher with lastPress := some event.time } := by
  obtain ⟨settings, held, literals, typed, count, leaderSince, lastPress⟩ := dispatcher
  obtain ⟨rfl, -, inTime⟩ := awaits
  cases lastPress with
  | none =>
      rfl
  | some last =>
      have kept :
          ¬(settings.chordTimeout > 0 ∧ held ≠ [] ∧
            event.time - last > settings.chordTimeout) := by
        rintro ⟨limited, isHeld, late⟩
        rcases inTime isHeld last rfl with unlimited | early
        · exact Nat.ne_of_gt limited unlimited
        · exact Nat.not_lt_of_le early late
      simp [arriving, expire, expireLeader, expireChord, kept]

/-- A press is still awaited when it has arrived. -/
theorem Awaits.arrived
    (awaits : dispatcher.Awaits event) :
    ({ dispatcher with lastPress := some event.time } : Dispatcher).Awaits event := by
  refine ⟨awaits.unarmed, awaits.begins, ?_⟩
  rintro _ last ⟨⟩
  right
  simp

theorem Awaits.notLeader
    (awaits : dispatcher.Awaits event) :
    dispatcher.isLeaderPress event = false := by
  by_cases noneHeld : dispatcher.held = []
  · simp [isLeaderPress, (awaits.begins noneHeld).2]
  · simp [isLeaderPress, noneHeld]

/-- A digit that is awaited belongs to the chord: it comes where any key may. -/
theorem Awaits.uncounted
    (awaits : dispatcher.Awaits event)
    {table : KeyTable}
    {action : Action}
    {fragment : Fragment}
    {c : Char}
    {isLast : Bool}
    (noCount : fragment = .any ∨ event.digit? = none)
    (lookedUp :
      dispatcher.lookUp event table =
        if isLast then .leaf action fragment c else .deeper fragment c) :
    ∀ digit ∈ event.digit?, dispatcher.countsDigit digit event table = false := by
  intro digit isDigit
  rcases noCount with rfl | noDigit
  · have isHeld : dispatcher.held ≠ [] := by
      intro noneHeld
      rw [(awaits.begins noneHeld).1] at isDigit
      contradiction
    have takes : dispatcher.takesDigit event table = true := by
      cases isLast <;> simp [takesDigit, lookedUp]
    simp [countsDigit, isHeld, takes]
  · rw [noDigit] at isDigit
    contradiction

/-! ## The digits of the count -/

/-- A digit goes to the count at the start of a chord, unless it is a zero in front. -/
theorem deliver_digit
    {digit count : Nat}
    (typed : event.digit? = some digit)
    (notLeading : digit = 0 → count ≠ 0)
    (lastPress : Option Nat) :
    (counting settings count lastPress).deliver ⟨event, tables, mode⟩ =
      (.pending, counting settings (min (count * 10 + digit) maxCount) (some event.time)) := by
  have arrived :
      (counting settings count lastPress).arriving event.time =
        counting settings count (some event.time) := by
    cases lastPress <;> simp [arriving, expire, expireLeader, expireChord, counting]
  have counts (table : KeyTable) :
      (counting settings count (some event.time)).countsDigit digit event table = true := by
    simpa [countsDigit, counting, leaderArmed] using Decidable.not_or_of_imp notLeading
  rw [deliver, feed_eq, arrived, step_of_counted typed (counts _)]
  rfl

theorem foldl_eq_ofDigits (numerals : List Nat) :
    numerals.foldl (fun value digit => value * 10 + digit) 0 =
      Nat.ofDigits 10 numerals.reverse := by
  rw [Nat.ofDigits_eq_foldr, List.foldr_reverse]
  simp [Nat.mul_comm, Nat.add_comm]

/-- The context after the digits of a count: it is explicit if there are any. -/
theorem context_counting
    (settings : DispatcherSettings)
    {digits : List KeyEvent}
    {numerals : List Nat}
    (typed : digits.map KeyEvent.digit? = numerals.map some)
    (notLeading : numerals.head? ≠ some 0)
    (lastPress : Option Nat) :
    (counting settings (min (Nat.ofDigits 10 numerals.reverse) maxCount) lastPress).context =
      { count := max 1 (min maxCount (Nat.ofDigits 10 numerals.reverse))
        explicitCount := !digits.isEmpty } := by
  rcases digits with _ | ⟨event, digits⟩
  · obtain rfl : numerals = [] := by
      simpa using typed.symm
    rfl
  · obtain ⟨digit, numerals, rfl, -, -⟩ := List.map_eq_cons_iff.mp typed.symm
    have digitPos : 0 < digit := by
      simpa [Nat.pos_iff_ne_zero] using notLeading
    have valuePos : 0 < Nat.ofDigits 10 (digit :: numerals).reverse := by
      rw [Nat.ofDigits_reverse_cons]
      exact Nat.add_pos_right _ (Nat.mul_pos (Nat.pow_pos (by decide)) digitPos)
    generalize Nat.ofDigits 10 (digit :: numerals).reverse = value at valuePos ⊢
    simp [context, counting, valuePos, maxCount, Nat.min_comm, Nat.max_comm]

/-- The digits of a count, one press after the other. -/
theorem answers_digits
    (settings : DispatcherSettings)
    (tables : KeyTables)
    (mode : Mode)
    {digits : List KeyEvent}
    {numerals : List Nat}
    (typed : digits.map KeyEvent.digit? = numerals.map some)
    {value : Nat}
    (notLeading : value = 0 → numerals.head? ≠ some 0)
    (lastPress : Option Nat)
    (later : List Delivery) :
    ∃ lastDigit : Option Nat,
      (counting settings (min value maxCount) lastPress).answers
          (digits.map (⟨·, tables, mode⟩) ++ later) =
        List.replicate digits.length .pending ++
          (counting settings
            (min (numerals.foldl (fun value digit => value * 10 + digit) value) maxCount)
            lastDigit).answers later := by
  -- The value is that of the digits before, of which the count may have been cut off.
  induction digits generalizing numerals value lastPress with
  | nil =>
      have noNumerals : numerals = [] := by
        simpa using typed.symm
      subst noNumerals
      exact ⟨lastPress, rfl⟩
  | cons event digits inductionHypothesis =>
      obtain ⟨digit, numerals, rfl, isDigit, typed⟩ := List.map_eq_cons_iff.mp typed.symm
      have notZero : digit = 0 → value ≠ 0 := by
        rintro rfl noValue
        exact notLeading noValue rfl
      have goesOn : value * 10 + digit = 0 → numerals.head? ≠ some 0 := by
        omega
      have countNotZero : digit = 0 → min value maxCount ≠ 0 := by
        simp only [maxCount]
        omega
      have appended :
          min (min value maxCount * 10 + digit) maxCount = min (value * 10 + digit) maxCount := by
        simp only [maxCount]
        omega
      obtain ⟨lastDigit, answered⟩ := inductionHypothesis typed.symm goesOn (some event.time)
      refine ⟨lastDigit, ?_⟩
      rw [List.map_cons, List.cons_append, answers,
        deliver_digit isDigit.symm countNotZero, appended, answered]
      rfl

/-! ## The presses of a chord -/

section BoundChord

variable
  {chord : Chord}
  {action : Action}
  (unambiguous : (tables.table (.forMode mode false)).Unambiguous)
  (bound : (tables.table (.forMode mode false)).get? chord = some action)

include unambiguous bound

/-- An awaited press that matches the next fragment of a bound chord goes on with it. -/
theorem Awaits.step_eq
    (awaits : dispatcher.Awaits event)
    {fragment : Fragment}
    {rest : List Fragment}
    {c : Char}
    (split : chord.fragments = dispatcher.held ++ fragment :: rest)
    (matched : fragment.match? event = some c)
    (noCount : fragment = .any ∨ event.digit? = none) :
    dispatcher.step event tables mode =
      some
        (if rest.isEmpty then
          (.resolved action (dispatcher.capture fragment c).context, dispatcher.reset)
        else
          (.pending, dispatcher.hold fragment c)) := by
  have inForce :
      tables.table (.forMode mode dispatcher.leaderArmed) =
        tables.table (.forMode mode false) := by
    simp [leaderArmed, awaits.unarmed]
  have lookedUp := lookUp_of_bound unambiguous bound split matched
  have uncounted := awaits.uncounted noCount lookedUp
  rw [← inForce] at lookedUp uncounted
  rw [step_of_uncounted uncounted awaits.notLeader, stepChord, lookedUp]
  cases rest with
  | nil =>
      simp
  | cons next rest =>
      simp

theorem Awaits.deliver_eq
    (awaits : dispatcher.Awaits event)
    {fragment : Fragment}
    {rest : List Fragment}
    {c : Char}
    (split : chord.fragments = dispatcher.held ++ fragment :: rest)
    (matched : fragment.match? event = some c)
    (noCount : fragment = .any ∨ event.digit? = none) :
    dispatcher.deliver ⟨event, tables, mode⟩ =
      let current := { dispatcher with lastPress := some event.time }
      if rest.isEmpty then
        (.resolved action (current.capture fragment c).context, current.reset)
      else
        (.pending, current.hold fragment c) := by
  rw [deliver, feed_eq, awaits.arriving_eq,
    awaits.arrived.step_eq unambiguous bound split matched noCount, Option.getD_some]

/-- The presses of a chord, from the held fragments on. -/
theorem answers_chord
    {fragment : Fragment}
    {fragments : List Fragment}
    {events : List KeyEvent}
    {literals : List Char}
    (spells : Spells (fragment :: fragments) events literals)
    (awaits : ∀ first ∈ events.head?, dispatcher.Awaits first)
    (split : chord.fragments = dispatcher.held ++ fragment :: fragments)
    (inTime : (events.map KeyEvent.time).IsChain dispatcher.settings.KeepsChord) :
    dispatcher.answers (events.map (⟨·, tables, mode⟩)) =
      List.replicate fragments.length .pending ++
        [.resolved action
          { dispatcher.context with literals := dispatcher.literals ++ literals }] := by
  -- On the fragments that are left: each press moves one of them to those that are held.
  induction fragments generalizing dispatcher fragment events literals with
  | nil =>
      obtain ⟨event, later, c, rest, rfl, rfl, matched, noCount, spells⟩ := spells.first
      cases spells
      have delivered :=
        (awaits event rfl).deliver_eq unambiguous bound split matched noCount
      simp [answers, delivered, capture_eq, context]
  | cons next fragments inductionHypothesis =>
      obtain ⟨event, later, c, rest, rfl, rfl, matched, noCount, spells⟩ := spells.first
      obtain ⟨nextInTime, laterInTime⟩ := List.isChain_cons.mp inTime
      have awaited : dispatcher.Awaits event := awaits event rfl
      have delivered := awaited.deliver_eq unambiguous bound split matched noCount
      simp only [List.isEmpty_cons, Bool.false_eq_true, ↓reduceIte, hold_eq] at delivered
      rw [List.map_cons, answers, delivered, inductionHypothesis spells]
      · simp [List.replicate_succ, context]
      · intro following isNext
        refine ⟨awaited.unarmed, by simp, ?_⟩
        rintro _ last ⟨⟩
        exact nextInTime following.time (by simpa using ⟨following, isNext, rfl⟩)
      · simp [split]
      · exact laterInTime

end BoundChord

/--
In an unambiguous table, an idle dispatcher answers the digits of a count and the presses
of a bound chord as pending, and the last press with what the chord is bound to, the
count and the captured characters.
-/
theorem bound_chord_resolves
    (reached : ReachedFrom settings dispatcher)
    (idle : dispatcher.isIdle = true)
    (unambiguous : (tables.table (.forMode mode false)).Unambiguous)
    {chord : Chord}
    {action : Action}
    (bound : (tables.table (.forMode mode false)).get? chord = some action)
    {digits events : List KeyEvent}
    {numerals : List Nat}
    {literals : List Char}
    (counted : digits.map KeyEvent.digit? = numerals.map some)
    (notLeading : numerals.head? ≠ some 0)
    (spells : Spells chord.fragments events literals)
    (begins : ∀ first ∈ events.head?, settings.Begins first)
    (inTime : (events.map KeyEvent.time).IsChain settings.KeepsChord) :
    dispatcher.answers ((digits ++ events).map (⟨·, tables, mode⟩)) =
      List.replicate (digits.length + events.length - 1) .pending ++
        [.resolved action
          { count := max 1 (min maxCount (Nat.ofDigits 10 numerals.reverse))
            explicitCount := !digits.isEmpty
            literals }] := by
  have start : dispatcher = counting settings (min 0 maxCount) dispatcher.lastPress :=
    reached.eq_of_isIdle idle
  obtain ⟨lastDigit, answered⟩ :=
    answers_digits settings tables mode counted (fun _ => notLeading) dispatcher.lastPress
      (events.map (⟨·, tables, mode⟩))
  rw [foldl_eq_ofDigits] at answered
  have awaits : ∀ first ∈ events.head?,
      (counting settings (min (Nat.ofDigits 10 numerals.reverse) maxCount) lastDigit).Awaits
        first := by
    intro first isFirst
    exact ⟨rfl, fun _ => begins first isFirst, fun isHeld => absurd rfl isHeld⟩
  obtain ⟨fragment, fragments, split⟩ := List.exists_cons_of_ne_nil chord.fragments_ne_nil
  rw [split] at spells
  have presses : digits.length + events.length - 1 = digits.length + fragments.length := by
    simp [spells.length_eq]
  rw [start, List.map_append, answered,
    answers_chord unambiguous bound spells awaits split inTime,
    context_counting settings counted notLeading, presses, ← List.append_assoc,
    List.replicate_append_replicate]
  rfl

/-- What matches a letter is a key of that letter in some case. -/
theorem letter_of_match?
    {c : Char}
    (isLetter : Text.isAlphabetic c = true)
    (matched : ((Fragment.key c).match? event).isSome) :
    ∃ pressed, event.key = .char pressed ∧ Text.lowerForm pressed = Text.lowerForm c := by
  simp only [Fragment.match?, isLetter, ↓reduceIte] at matched
  split at matched
  · rename_i pressed isChar
    refine ⟨pressed, isChar, ?_⟩
    simp_all
  · contradiction

/-- Tables with `cc` and `cs??`. -/
def demoTables : KeyTables where
  normal := ⟨
    [⟨⟨[.key 'c', .key 'c'], by simp, by decide⟩, .changeLines⟩,
      ⟨⟨[.key 'c', .key 's', .any, .any], by simp, by decide⟩, .changeSurround⟩]⟩

/-- A press is not both a `c` and an `s`, where the chords part. -/
theorem demoTables_unambiguous : demoTables.normal.Unambiguous := by
  have letters : ∀ event,
      ¬(((Fragment.key 'c').match? event).isSome ∧ ((Fragment.key 's').match? event).isSome) := by
    rintro event ⟨isC, isS⟩
    obtain ⟨pressed, key, sameC⟩ := letter_of_match? (by decide +kernel) isC
    obtain ⟨_, key', sameS⟩ := letter_of_match? (by decide +kernel) isS
    cases key.symm.trans key'
    have same : Text.lowerForm 'c' = Text.lowerForm 's' := sameC.symm.trans sameS
    revert same
    decide +kernel
  constructor
  · simp [demoTables]
  · simp only [demoTables, List.mem_cons, List.not_mem_nil, or_false, forall_eq_or_imp,
      forall_eq]
    simp only [Fragment.parting?, reduceCtorEq, false_implies, implies_true, Fragment.key.injEq,
      Char.reduceEq, ↓reduceIte, true_and, and_true, Option.some.injEq, Prod.mk.injEq, and_imp]
    constructor
    · rintro _ _ rfl rfl event
      exact letters event
    · rintro _ _ rfl rfl event both
      exact letters event both.symm

/-- `12cs5,` changes surroundings: the `5` and the leader key are captured. -/
theorem counted_surround_resolves :
    (fresh { chordTimeout := 500 }).answers
        (([KeyEvent.ofChar '1' 0, .ofChar '2' 900] ++
          [KeyEvent.ofChar 'c' 1800, .ofChar 's' 2000, .ofChar '5' 2400, .ofChar ',' 2900]).map
            (⟨·, demoTables, .normal⟩)) =
      [.pending, .pending, .pending, .pending, .pending,
        .resolved .changeSurround
          { count := 12, explicitCount := true, literals := ['5', ','] }] := by
  have unambiguous : (demoTables.table (.forMode .normal false)).Unambiguous :=
    demoTables_unambiguous
  have bound :
      (demoTables.table (.forMode .normal false)).get?
          ⟨[.key 'c', .key 's', .any, .any], by simp, by decide⟩ =
        some .changeSurround := by
    decide +kernel
  have counted : [KeyEvent.ofChar '1' 0, .ofChar '2' 900].map KeyEvent.digit? =
      [1, 2].map some := by
    decide +kernel
  have spells : Spells [.key 'c', .key 's', .any, .any]
      [.ofChar 'c' 1800, .ofChar 's' 2000, .ofChar '5' 2400, .ofChar ',' 2900] ['5', ','] := by
    refine .key (by decide) (by decide +kernel) (by decide +kernel) ?_
    refine .key (by decide) (by decide +kernel) (by decide +kernel) ?_
    exact .captured (by decide +kernel) (.captured (by decide +kernel) .nil)
  have begins : DispatcherSettings.Begins { chordTimeout := 500 } (.ofChar 'c' 1800) := by
    constructor <;> decide +kernel
  exact bound_chord_resolves .fresh rfl unambiguous bound counted (by decide) spells
    (by simpa using begins) (by simp [DispatcherSettings.KeepsChord, KeyEvent.ofChar])

end Dispatcher

end ChordEditor
