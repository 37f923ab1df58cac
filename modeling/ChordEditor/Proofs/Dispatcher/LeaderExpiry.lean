import ChordEditor.Proofs.Dispatcher.Finished
import ChordEditor.Proofs.Dispatcher.Typing

namespace ChordEditor.Dispatcher

/-!
# The leader expires

A press that is answered as pending never arms the leader: after it the leader is armed
since the same time as before, or not at all (`leaderSince_of_pending`).  So if presses
behind the leader key are all pending and the leader is still armed, it expires with the
first press that comes too late, and that press finds nothing but the count
(`deliver_of_late`).

What is counted behind the leader key stays in the count, and a press that breaks the
leader's chord off is tried from the start.  Neither is forgotten when the time of the
leader is over (`count_and_retry_outlive_leader`).
-/

variable
  {settings : DispatcherSettings}
  {dispatcher : Dispatcher}
  {delivery : Delivery}

/-- The dispatcher after presses, the first one first. -/
def afterAll (dispatcher : Dispatcher) (presses : List Delivery) : Dispatcher :=
  presses.foldl (fun dispatcher press => (dispatcher.deliver press).2) dispatcher

/-- Whether presses are all answered as pending. -/
def AllPending (dispatcher : Dispatcher) (presses : List Delivery) : Prop :=
  ∀ answer ∈ dispatcher.answers presses, answer = .pending

theorem ReachedFrom.afterAll
    (reached : ReachedFrom settings dispatcher)
    (presses : List Delivery) :
    ReachedFrom settings (dispatcher.afterAll presses) := by
  induction presses generalizing dispatcher with
  | nil =>
      exact reached
  | cons press presses inductionHypothesis =>
      exact inductionHypothesis (reached.deliver press)

/-- When a press arrives the leader is armed since the same time, or has expired. -/
theorem leaderSince_arriving
    (dispatcher : Dispatcher)
    (time : Nat) :
    (dispatcher.arriving time).leaderSince = dispatcher.leaderSince ∨
      (dispatcher.arriving time).leaderSince = none := by
  have leader :
      (dispatcher.expireLeader time).leaderSince = dispatcher.leaderSince ∨
        (dispatcher.expireLeader time).leaderSince = none := by
    unfold expireLeader
    split
    · split
      · exact .inr rfl
      · exact .inl rfl
    · exact .inl rfl
  simp only [arriving, expire, expireChord]
  split
  · split
    · exact .inr rfl
    · exact leader
  · exact leader

/-- A press that goes on with a count or a chord leaves the leader as it is. -/
theorem leaderSince_of_step
    {next : Dispatcher}
    {event : KeyEvent}
    {tables : KeyTables}
    {mode : Mode}
    (stepped : dispatcher.step event tables mode = some (.pending, next)) :
    next.leaderSince = dispatcher.leaderSince := by
  rcases step_cases stepped with
    ⟨_, _, rfl⟩ | ⟨armed, _⟩ | ⟨_, _, _, resolved, _⟩ | ⟨fragment, c, _, rfl⟩
  · rfl
  · contradiction
  · contradiction
  · rw [hold_eq]

/-- A press that is pending leaves the leader armed since the same time, or not at all. -/
theorem leaderSince_of_pending
    (pending : (dispatcher.deliver delivery).1 = .pending) :
    (dispatcher.deliver delivery).2.leaderSince = dispatcher.leaderSince ∨
      (dispatcher.deliver delivery).2.leaderSince = none := by
  have fed :
      dispatcher.feed delivery.event delivery.tables delivery.mode =
        (.pending, (dispatcher.deliver delivery).2) :=
    Prod.ext pending rfl
  rcases feed_cases fed with stepped | again | ⟨unresolved, _⟩
  · rw [leaderSince_of_step stepped]
    exact leaderSince_arriving dispatcher delivery.event.time
  · exact .inr (leaderSince_of_step again)
  · contradiction

/-- Presses that are all pending leave the leader armed since the same time, or not at all. -/
theorem leaderSince_afterAll
    {presses : List Delivery}
    (pending : dispatcher.AllPending presses) :
    (dispatcher.afterAll presses).leaderSince = dispatcher.leaderSince ∨
      (dispatcher.afterAll presses).leaderSince = none := by
  induction presses generalizing dispatcher with
  | nil =>
      exact .inl rfl
  | cons press presses inductionHypothesis =>
      have first : (dispatcher.deliver press).1 = .pending :=
        pending _ List.mem_cons_self
      have later : (dispatcher.deliver press).2.AllPending presses := by
        intro answer isLater
        exact pending answer (List.mem_cons_of_mem _ isLater)
      rcases inductionHypothesis later with same | gone
      · rcases leaderSince_of_pending first with stays | gone
        · exact .inl (same.trans stays)
        · exact .inr (same.trans gone)
      · exact .inr gone

theorem leaderSince_of_armed
    (armed : (dispatcher.deliver delivery).1 = .leaderArmed) :
    (dispatcher.deliver delivery).2.leaderSince = some delivery.event.time := by
  have arms
      {current next : Dispatcher}
      (stepped :
        current.step delivery.event delivery.tables delivery.mode =
          some (.leaderArmed, next)) :
      next.leaderSince = some delivery.event.time := by
    rcases step_cases stepped with
      ⟨_, pending, _⟩ | ⟨_, rfl⟩ | ⟨_, _, _, resolved, _⟩ | ⟨_, _, pending, _⟩
    · contradiction
    · rfl
    · contradiction
    · contradiction
  have fed :
      dispatcher.feed delivery.event delivery.tables delivery.mode =
        (.leaderArmed, (dispatcher.deliver delivery).2) :=
    Prod.ext armed rfl
  rcases feed_cases fed with stepped | again | ⟨unresolved, _⟩
  · exact arms stepped
  · exact arms again
  · contradiction

/-- With nothing but a count pending it does not matter when the last press came. -/
theorem deliver_counting
    (settings : DispatcherSettings)
    (count : Nat)
    (lastPress : Option Nat)
    (delivery : Delivery) :
    (counting settings count lastPress).deliver delivery =
      (counting settings count none).deliver delivery := by
  have arrived :
      (counting settings count lastPress).arriving delivery.event.time =
        (counting settings count none).arriving delivery.event.time := by
    cases lastPress <;> simp [arriving, expire, expireLeader, expireChord, counting]
  rw [deliver, deliver, feed_eq, feed_eq, arrived]

/-- A press that comes after the time of the leader finds nothing but the count. -/
theorem deliver_of_late
    {since : Nat}
    (armed : dispatcher.leaderSince = some since)
    (late : since + dispatcher.settings.leaderTimeout < delivery.event.time) :
    dispatcher.deliver delivery =
      (counting dispatcher.settings dispatcher.count none).deliver delivery := by
  have expired : dispatcher.expireLeader delivery.event.time = dispatcher.dropChord := by
    simp only [expireLeader, armed]
    rw [if_pos (by omega)]
  have arrived :
      dispatcher.arriving delivery.event.time =
        (counting dispatcher.settings dispatcher.count dispatcher.lastPress).arriving
          delivery.event.time := by
    simp only [arriving, expire, expired]
    rfl
  rw [← deliver_counting _ _ dispatcher.lastPress, deliver, deliver, feed_eq, feed_eq, arrived]

/-- A dispatcher that holds no fragments, with the leader not armed, has only its count. -/
theorem ReachedFrom.eq_counting
    (reached : ReachedFrom settings dispatcher)
    (noneHeld : dispatcher.held = [])
    (unarmed : dispatcher.leaderSince = none) :
    dispatcher = counting settings dispatcher.count dispatcher.lastPress := by
  have sameSettings := reached.settings_eq
  obtain ⟨typed, literals⟩ := reached.consistent
  obtain ⟨_, held, _, _, count, leaderSince, lastPress⟩ := dispatcher
  simp_all [counting]

/--
An idle dispatcher is fed presses that leave a count and nothing else, then the leader key,
then presses that are all pending, while the leader stays armed and nothing is added to the
count.  A press that comes after the time of the leader is then answered, and leaves the
dispatcher, as if the leader key and what followed it had never been pressed.
-/
theorem expired_leader_leaves_no_trace
    {idle : Dispatcher}
    (reached : ReachedFrom settings idle)
    (isIdle : idle.isIdle = true)
    {digits keys : List Delivery}
    {leader late : Delivery}
    (counted : idle.AllPending digits)
    (noneHeld : (idle.afterAll digits).held = [])
    (arms : ((idle.afterAll digits).deliver leader).1 = .leaderArmed)
    (pending : ((idle.afterAll digits).deliver leader).2.AllPending keys)
    (stillArmed : (idle.afterAll (digits ++ leader :: keys)).leaderArmed = true)
    (uncounted :
      (idle.afterAll (digits ++ leader :: keys)).count = (idle.afterAll digits).count)
    (isLate : leader.event.time + settings.leaderTimeout < late.event.time) :
    (idle.afterAll (digits ++ leader :: keys)).deliver late =
      (idle.afterAll digits).deliver late := by
  have unarmed : (idle.afterAll digits).leaderSince = none := by
    have wasUnarmed : idle.leaderSince = none := by
      rw [reached.eq_of_isIdle isIdle]
      rfl
    rcases leaderSince_afterAll counted with same | none
    · exact same.trans wasUnarmed
    · exact none
  have onlyCount := (reached.afterAll digits).eq_counting noneHeld unarmed
  -- Pending presses do not arm the leader again, so it is armed since the leader key.
  have armedSince :
      (idle.afterAll (digits ++ leader :: keys)).leaderSince = some leader.event.time := by
    have later :
        idle.afterAll (digits ++ leader :: keys) =
          ((idle.afterAll digits).deliver leader).2.afterAll keys := by
      simp [afterAll]
    rw [later] at stillArmed ⊢
    rcases leaderSince_afterAll pending with same | none
    · exact same.trans (leaderSince_of_armed arms)
    · simp [leaderArmed, none] at stillArmed
  have sameSettings := (reached.afterAll (digits ++ leader :: keys)).settings_eq
  rw [deliver_of_late armedSince (by rwa [sameSettings]), sameSettings, uncounted]
  generalize idle.afterAll digits = before at onlyCount
  rw [onlyCount]
  exact (deliver_counting ..).symm

/-- A press with `dd` and `x` bound, and `ci` behind the leader. -/
def leaderDemo (c : Char) (time : Nat) : Delivery :=
  let press := demoPress c time
  let deleteChar : Binding := ⟨⟨[.key 'x'], List.cons_ne_nil _ _, by decide⟩, .deleteChar⟩
  { press with
    tables :=
      { press.tables with
        normal := ⟨press.tables.normal.bindings ++ [deleteChar]⟩
        leaderNormal := ⟨
          [⟨⟨[.key 'c', .key 'i'], List.cons_ne_nil _ _, by decide⟩, .comment .toggle⟩]⟩ } }

/-- In `2,c` and, too late for the leader, `x` the count is kept and the `c` is not. -/
theorem late_key_finds_count :
    let typed := [leaderDemo '2' 0] ++ leaderDemo ',' 10 :: [leaderDemo 'c' 20]
    (fresh {}).answers typed = [.pending, .leaderArmed, .pending] ∧
      ((fresh {}).afterAll typed).deliver (leaderDemo 'x' 1500) =
        ((fresh {}).afterAll [leaderDemo '2' 0]).deliver (leaderDemo 'x' 1500) ∧
      (((fresh {}).afterAll typed).deliver (leaderDemo 'x' 1500)).1 =
        .resolved .deleteChar { count := 2, explicitCount := true } := by
  intro typed
  have counted : (fresh {}).AllPending [leaderDemo '2' 0] := by
    unfold AllPending
    decide +kernel
  have pending :
      (((fresh {}).afterAll [leaderDemo '2' 0]).deliver (leaderDemo ',' 10)).2.AllPending
        [leaderDemo 'c' 20] := by
    unfold AllPending
    decide +kernel
  have same :=
    @expired_leader_leaves_no_trace {} (fresh {}) .fresh rfl [leaderDemo '2' 0]
      [leaderDemo 'c' 20] (leaderDemo ',' 10) (leaderDemo 'x' 1500) counted
      (by decide +kernel) (by decide +kernel) pending (by decide +kernel) (by decide +kernel)
      (by decide)
  refine ⟨by decide +kernel, same, ?_⟩
  decide +kernel

/--
A digit in the chord behind the leader key is in the count when that has expired, and a
key that breaks this chord off is still held.  Without the leader key neither is there.
-/
theorem count_and_retry_outlive_leader :
    let idle := fresh {}
    let counted := [leaderDemo ',' 0, leaderDemo 'c' 10, leaderDemo '3' 20]
    let retried := [leaderDemo ',' 0, leaderDemo 'd' 10]
    (idle.answers counted = [.leaderArmed, .pending, .pending] ∧
      ((idle.afterAll counted).deliver (leaderDemo 'x' 1500)).1 =
        .resolved .deleteChar { count := 3, explicitCount := true } ∧
      (idle.deliver (leaderDemo 'x' 1500)).1 = .resolved .deleteChar {}) ∧
    (idle.answers retried = [.leaderArmed, .pending] ∧
      ((idle.afterAll retried).deliver (leaderDemo 'd' 1500)).1 =
        .resolved .deleteLines {} ∧
      (idle.deliver (leaderDemo 'd' 1500)).1 = .pending) := by
  decide +kernel

end ChordEditor.Dispatcher
