import ChordEditor.Dispatcher

namespace ChordEditor

/-!
# Steps of a dispatcher

A dispatcher is fed presses one after the other, each in some mode and with some tables.
What a single press can do is said once (`step_cases`, `feed_cases`), and from it what
holds of every dispatcher that presses and resets make out of a new one: the settings
are the same, and each held fragment has its typed character, and its literal if it
captures one (`ReachedFrom.consistent`).
-/

/-- A press with the mode and the tables that it is looked up in. -/
structure Delivery where
  event : KeyEvent
  tables : KeyTables
  mode : Mode

namespace Dispatcher

/-- A new dispatcher. -/
def fresh (settings : DispatcherSettings) : Dispatcher :=
  { settings }

/-- Feed a press in its mode. -/
def deliver (dispatcher : Dispatcher) (delivery : Delivery) : DispatchResult × Dispatcher :=
  dispatcher.feed delivery.event delivery.tables delivery.mode

/-- The answers to presses, one after the other. -/
def answers (dispatcher : Dispatcher) : List Delivery → List DispatchResult
  | [] => []
  | delivery :: later =>
      (dispatcher.deliver delivery).1 :: (dispatcher.deliver delivery).2.answers later

/-- The dispatcher when a press arrives, before the press is tried. -/
def arriving (dispatcher : Dispatcher) (time : Nat) : Dispatcher :=
  { dispatcher.expire time with lastPress := some time }

/-- The dispatchers that presses and resets make out of a new one. -/
inductive ReachedFrom (settings : DispatcherSettings) : Dispatcher → Prop where
  | fresh :
      ReachedFrom settings (fresh settings)
  | deliver
      {dispatcher : Dispatcher}
      (reached : ReachedFrom settings dispatcher)
      (delivery : Delivery) :
      ReachedFrom settings (dispatcher.deliver delivery).2
  | reset
      {dispatcher : Dispatcher}
      (reached : ReachedFrom settings dispatcher) :
      ReachedFrom settings dispatcher.reset

variable
  {dispatcher next : Dispatcher}
  {event : KeyEvent}
  {tables : KeyTables}
  {mode : Mode}
  {answer : DispatchResult}

/-- A press that fits is a digit of the count, the leader key, or the next one of a chord. -/
theorem step_cases
    (stepped : dispatcher.step event tables mode = some (answer, next)) :
    (∃ digit, answer = .pending ∧ next = dispatcher.countDigit digit) ∨
      (answer = .leaderArmed ∧
        next = { dispatcher with leaderSince := some event.time }) ∨
      (∃ action fragment c,
        answer = .resolved action (dispatcher.capture fragment c).context ∧
          next = (dispatcher.capture fragment c).reset) ∨
      ∃ fragment c, answer = .pending ∧ next = dispatcher.hold fragment c := by
  simp only [step] at stepped
  split at stepped
  · cases stepped
    exact .inl ⟨_, rfl, rfl⟩
  · split at stepped
    · cases stepped
      exact .inr (.inl ⟨rfl, rfl⟩)
    · unfold stepChord at stepped
      split at stepped
      · cases stepped
        exact .inr (.inr (.inl ⟨_, _, _, rfl, rfl⟩))
      · cases stepped
        exact .inr (.inr (.inr ⟨_, _, rfl, rfl⟩))
      · contradiction

theorem feed_eq (dispatcher : Dispatcher) :
    dispatcher.feed event tables mode =
      ((dispatcher.arriving event.time).step event tables mode).getD
        ((dispatcher.arriving event.time).missed event tables mode) :=
  rfl

/-- A press is tried on what has not expired, or once more from the start, or fits nothing. -/
theorem feed_cases
    (fed : dispatcher.feed event tables mode = (answer, next)) :
    (dispatcher.arriving event.time).step event tables mode = some (answer, next) ∨
      (dispatcher.arriving event.time).reset.step event tables mode = some (answer, next) ∨
      answer = .unresolved ∧ next = (dispatcher.arriving event.time).reset := by
  rw [feed_eq] at fed
  generalize dispatcher.arriving event.time = current at fed ⊢
  cases stepped : current.step event tables mode with
  | some result =>
      rw [stepped] at fed
      exact .inl (congrArg some fed)
  | none =>
      simp only [stepped, Option.getD_none, missed] at fed
      split at fed
      · cases again : current.reset.step event tables mode with
        | some result =>
            rw [again] at fed
            exact .inr (.inl (congrArg some fed))
        | none =>
            rw [again] at fed
            cases fed
            exact .inr (.inr ⟨rfl, rfl⟩)
      · cases fed
        exact .inr (.inr ⟨rfl, rfl⟩)

/-! ## Invariants -/

theorem capture_eq
    (dispatcher : Dispatcher)
    (fragment : Fragment)
    (c : Char) :
    dispatcher.capture fragment c =
      { dispatcher with
        literals := dispatcher.literals ++ if fragment = .any then [c] else [] } := by
  unfold capture
  split <;> simp

/-- A held fragment comes with its character, twice if it captures it. -/
theorem hold_eq
    (dispatcher : Dispatcher)
    (fragment : Fragment)
    (c : Char) :
    dispatcher.hold fragment c =
      { dispatcher with
        held := dispatcher.held ++ [fragment]
        literals := dispatcher.literals ++ if fragment = .any then [c] else []
        typed := dispatcher.typed ++ [c] } := by
  simp only [hold, capture_eq]

/-- A reset drops what was captured too. -/
@[simp]
theorem capture_reset
    (dispatcher : Dispatcher)
    (fragment : Fragment)
    (c : Char) :
    (dispatcher.capture fragment c).reset = dispatcher.reset := by
  rw [capture_eq]
  rfl

/-- The dispatchers that come from one by the changes that presses are made of. -/
inductive Becomes (start : Dispatcher) : Dispatcher → Prop where
  | start :
      Becomes start start
  | dropChord
      {current : Dispatcher}
      (becomes : Becomes start current) :
      Becomes start current.dropChord
  | reset
      {current : Dispatcher}
      (becomes : Becomes start current) :
      Becomes start current.reset
  | pressAt
      {current : Dispatcher}
      (becomes : Becomes start current)
      (time : Nat) :
      Becomes start { current with lastPress := some time }
  | countDigit
      {current : Dispatcher}
      (becomes : Becomes start current)
      (digit : Nat) :
      Becomes start (current.countDigit digit)
  | armLeader
      {current : Dispatcher}
      (becomes : Becomes start current)
      (time : Nat) :
      Becomes start { current with leaderSince := some time }
  | hold
      {current : Dispatcher}
      (becomes : Becomes start current)
      (fragment : Fragment)
      (c : Char) :
      Becomes start (current.hold fragment c)

namespace Becomes

variable {start current : Dispatcher}

theorem expire
    (becomes : Becomes start current)
    (now : Nat) :
    Becomes start (current.expire now) := by
  have leader : Becomes start (current.expireLeader now) := by
    unfold expireLeader
    split
    · split
      · exact becomes.dropChord
      · exact becomes
    · exact becomes
  unfold Dispatcher.expire expireChord
  split
  · split
    · exact leader.reset
    · exact leader
  · exact leader

theorem step
    (becomes : Becomes start current)
    (stepped : current.step event tables mode = some (answer, next)) :
    Becomes start next := by
  rcases step_cases stepped with
    ⟨digit, _, rfl⟩ | ⟨_, rfl⟩ | ⟨_, fragment, c, _, rfl⟩ | ⟨fragment, c, _, rfl⟩
  · exact becomes.countDigit digit
  · exact becomes.armLeader event.time
  · rw [capture_reset]
    exact becomes.reset
  · exact becomes.hold fragment c

/-- Whatever a press does is made of such changes. -/
theorem feed
    (becomes : Becomes start current)
    (fed : current.feed event tables mode = (answer, next)) :
    Becomes start next := by
  have arrived : Becomes start (current.arriving event.time) :=
    (becomes.expire event.time).pressAt event.time
  rcases feed_cases fed with stepped | stepped | ⟨_, rfl⟩
  · exact arrived.step stepped
  · exact arrived.reset.step stepped
  · exact arrived.reset

end Becomes

theorem Becomes.settings_eq
    {start current : Dispatcher}
    (becomes : Becomes start current) :
    current.settings = start.settings := by
  induction becomes with
  | start =>
      rfl
  | hold _ fragment c inductionHypothesis =>
      rw [hold_eq]
      exact inductionHypothesis
  | _ =>
      assumption

/-- Each held fragment has its typed character, and its literal if it captures one. -/
structure Consistent (dispatcher : Dispatcher) : Prop where
  typed : dispatcher.typed.length = dispatcher.held.length
  literals : dispatcher.literals.length = dispatcher.held.count .any

/-- Where nothing is held there is nothing to be consistent with. -/
theorem consistent_of_settled
    (noneHeld : dispatcher.held = [])
    (noneTyped : dispatcher.typed = [])
    (noLiterals : dispatcher.literals = []) :
    dispatcher.Consistent := by
  constructor
  · rw [noneHeld, noneTyped]
    rfl
  · rw [noneHeld, noLiterals]
    rfl

/-- Held fragments, typed characters and literals grow together and are dropped together. -/
theorem Becomes.consistent
    {start current : Dispatcher}
    (becomes : Becomes start current)
    (consistent : start.Consistent) :
    current.Consistent := by
  induction becomes with
  | start =>
      exact consistent
  | dropChord =>
      exact consistent_of_settled rfl rfl rfl
  | reset =>
      exact consistent_of_settled rfl rfl rfl
  | hold _ fragment c inductionHypothesis =>
      rw [hold_eq]
      constructor
      · simp [inductionHypothesis.typed]
      · simp only [List.length_append, List.count_append, inductionHypothesis.literals]
        by_cases isAny : fragment = .any <;> simp [isAny]
  | _ =>
      rename_i inductionHypothesis
      exact ⟨inductionHypothesis.typed, inductionHypothesis.literals⟩

theorem ReachedFrom.becomes
    {settings : DispatcherSettings}
    (reached : ReachedFrom settings dispatcher) :
    Becomes (Dispatcher.fresh settings) dispatcher := by
  induction reached with
  | fresh =>
      exact .start
  | deliver _ delivery inductionHypothesis =>
      exact inductionHypothesis.feed rfl
  | reset _ inductionHypothesis =>
      exact inductionHypothesis.reset

theorem ReachedFrom.settings_eq
    {settings : DispatcherSettings}
    (reached : ReachedFrom settings dispatcher) :
    dispatcher.settings = settings :=
  reached.becomes.settings_eq

/-- Every dispatcher that presses and resets make out of a new one is consistent. -/
theorem ReachedFrom.consistent
    {settings : DispatcherSettings}
    (reached : ReachedFrom settings dispatcher) :
    dispatcher.Consistent :=
  reached.becomes.consistent (consistent_of_settled rfl rfl rfl)

end Dispatcher

end ChordEditor
