import ChordEditor.Proofs.Dispatcher.Steps

namespace ChordEditor

/-!
# Finished chords

An answer that finishes a chord leaves a dispatcher that differs from a new one in
nothing but the time of the last press (`feed_of_finished`).  That time matters only
while fragments are held (`deliver_of_settled`), and the next press sets it anyway.  So
from then on the answers are those of a new dispatcher (`finished_chord_leaves_nothing`).
-/

namespace DispatchResult

/-- Whether the chord is over: an action was found, or nothing is bound to the press. -/
def isFinished : DispatchResult → Bool
  | .resolved .. | .unresolved => true
  | .pending | .leaderArmed => false

end DispatchResult

namespace Dispatcher

variable
  {dispatcher next : Dispatcher}
  {event : KeyEvent}
  {tables : KeyTables}
  {mode : Mode}
  {answer : DispatchResult}

theorem step_of_finished
    (stepped : dispatcher.step event tables mode = some (answer, next))
    (finished : answer.isFinished = true) :
    next = dispatcher.reset := by
  rcases step_cases stepped with
    ⟨_, rfl, _⟩ | ⟨rfl, _⟩ | ⟨_, fragment, c, rfl, rfl⟩ | ⟨_, _, rfl, _⟩
  · contradiction
  · contradiction
  · exact capture_reset dispatcher fragment c
  · contradiction

/-- After an answer that finishes a chord only the settings and the time are left. -/
theorem feed_of_finished
    (fed : dispatcher.feed event tables mode = (answer, next))
    (finished : answer.isFinished = true) :
    next = { settings := dispatcher.settings, lastPress := some event.time } := by
  have isReset : next = (dispatcher.arriving event.time).reset := by
    rcases feed_cases fed with stepped | again | ⟨_, isReset⟩
    · exact step_of_finished stepped finished
    -- The second try starts from a reset, and a reset of that is the same again.
    · exact (step_of_finished again finished).trans rfl
    · exact isReset
  have sameSettings : (dispatcher.expire event.time).settings = dispatcher.settings :=
    (Becomes.start.expire event.time).settings_eq
  rw [isReset, ← sameSettings]
  rfl

/-- With nothing pending it does not matter when the last press came. -/
theorem deliver_of_settled
    (settings : DispatcherSettings)
    (lastPress : Option Nat)
    (delivery : Delivery) :
    ({ settings, lastPress } : Dispatcher).deliver delivery =
      (fresh settings).deliver delivery := by
  have arrived :
      ({ settings, lastPress } : Dispatcher).arriving delivery.event.time =
        (fresh settings).arriving delivery.event.time := by
    cases lastPress <;> simp [arriving, expire, expireLeader, expireChord, fresh]
  rw [deliver, deliver, feed_eq, feed_eq, arrived]

theorem answers_of_settled
    (settings : DispatcherSettings)
    (lastPress : Option Nat)
    (later : List Delivery) :
    ({ settings, lastPress } : Dispatcher).answers later = (fresh settings).answers later := by
  cases later with
  | nil =>
      rfl
  | cons delivery later =>
      rw [answers, answers, deliver_of_settled]

/--
When a press is answered with an action, or with nothing being bound to it, nothing is
pending any more, and all later presses are answered as by a new dispatcher.
-/
theorem finished_chord_leaves_nothing
    {settings : DispatcherSettings}
    (reached : ReachedFrom settings dispatcher)
    {delivery : Delivery}
    (answered : dispatcher.deliver delivery = (answer, next))
    (finished : answer.isFinished = true) :
    next.pending = "" ∧
      ∀ later, next.answers later = (fresh settings).answers later := by
  have left := feed_of_finished answered finished
  rw [reached.settings_eq] at left
  rw [left]
  exact ⟨rfl, answers_of_settled settings _⟩

/-- A press with `dd` bound to delete lines. -/
def demoPress (c : Char) (time : Nat) : Delivery where
  event := .ofChar c time
  tables := { normal := ⟨[⟨⟨[.key 'd', .key 'd'], by simp, by decide⟩, .deleteLines⟩]⟩ }
  mode := .normal

/-- A count and a key of a chord are forgotten after a key that is not bound. -/
theorem unbound_key_leaves_nothing :
    let typing := (((fresh {}).deliver (demoPress '2' 0)).2.deliver (demoPress 'd' 1)).2
    let missed := typing.deliver (demoPress 'x' 2)
    ReachedFrom {} typing ∧
      typing.pending = "2d" ∧
      missed.1 = .unresolved ∧
      missed.2.pending = "" ∧
      missed.2.answers [demoPress 'd' 3, demoPress 'd' 4] =
        [.pending, .resolved .deleteLines {}] := by
  intro typing missed
  have reached : ReachedFrom {} typing :=
    (ReachedFrom.fresh.deliver (demoPress '2' 0)).deliver (demoPress 'd' 1)
  have unresolved : missed.1 = .unresolved := by
    decide +kernel
  have answered : typing.deliver (demoPress 'x' 2) = (.unresolved, missed.2) :=
    Prod.ext unresolved rfl
  obtain ⟨nothing, later⟩ := finished_chord_leaves_nothing reached answered rfl
  refine ⟨reached, by decide +kernel, unresolved, nothing, (later _).trans ?_⟩
  decide +kernel

end Dispatcher

end ChordEditor
