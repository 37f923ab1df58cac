import ChordEditor.KeyTable

namespace ChordEditor

/-!
# Dispatching chords

The dispatcher turns key presses into actions.  Between presses it keeps the fragments
matched so far, the count typed in front, and when the leader key was pressed.  It
knows nothing of the text.

A press is first tried as a digit of the count, then as the leader key, then against
the chords of the table in force.  One that fits nothing clears all that was pending
and may be tried once more from the start.
-/

/-- The largest count that digits build up. -/
def maxCount : Nat := 9999

/-- How a dispatcher treats the leader key, time and unmatched presses. -/
structure DispatcherSettings where
  leader : Char := ','
  /-- Milliseconds that the leader stays armed. -/
  leaderTimeout : Nat := 1000
  /-- Milliseconds after which matched fragments are dropped; zero for never. -/
  chordTimeout : Nat := 0
  /-- Whether a press that breaks a chord off is tried again from the start. -/
  redeliver : Bool := true
  deriving Repr, DecidableEq

/-- What a press did. -/
inductive DispatchResult where
  /-- The chord or the count goes on. -/
  | pending
  | leaderArmed
  | resolved (action : Action) (context : CommandContext)
  /-- Nothing is bound to the press. -/
  | unresolved
  deriving Repr, DecidableEq

/-- What a press leads to in a table, given the fragments matched before it. -/
inductive ChordStep where
  /-- The last fragment of a chord. -/
  | leaf (action : Action) (fragment : Fragment) (c : Char)
  /-- A fragment with more to come. -/
  | deeper (fragment : Fragment) (c : Char)
  | miss
  deriving Repr, DecidableEq

/-- The state between presses. -/
structure Dispatcher where
  settings : DispatcherSettings := {}
  /-- The fragments matched so far. -/
  held : List Fragment := []
  /-- The characters captured so far. -/
  literals : List Char := []
  /-- The characters that the fragments stand for. -/
  typed : List Char := []
  count : Nat := 0
  /-- When the leader key was pressed, if it is armed. -/
  leaderSince : Option Nat := none
  /-- When the last press came. -/
  lastPress : Option Nat := none
  deriving Repr, DecidableEq

namespace Dispatcher

/-- Whether the leader is armed. -/
def leaderArmed (dispatcher : Dispatcher) : Bool :=
  dispatcher.leaderSince.isSome

/-- The number of fragments matched so far. -/
def depth (dispatcher : Dispatcher) : Nat :=
  dispatcher.held.length

/-- Whether nothing is pending. -/
def isIdle (dispatcher : Dispatcher) : Bool :=
  dispatcher.held.isEmpty && dispatcher.count == 0 && !dispatcher.leaderArmed

/-- What was typed towards the chord, with the count and the leader. -/
def pending (dispatcher : Dispatcher) : String :=
  let count := if dispatcher.count > 0 then toString dispatcher.count else ""
  let leader :=
    if dispatcher.leaderArmed then String.singleton dispatcher.settings.leader else ""
  count ++ leader ++ String.ofList dispatcher.typed

/-- Drop the matched fragments and the leader, but not the count. -/
def dropChord (dispatcher : Dispatcher) : Dispatcher :=
  { dispatcher with held := [], literals := [], typed := [], leaderSince := none }

/-- Drop all that is pending. -/
def reset (dispatcher : Dispatcher) : Dispatcher :=
  { dispatcher.dropChord with count := 0 }

/-- Drop the chord if the leader has been armed for too long. -/
def expireLeader (dispatcher : Dispatcher) (now : Nat) : Dispatcher :=
  match dispatcher.leaderSince with
  | some since =>
      if now - since > dispatcher.settings.leaderTimeout then
        dispatcher.dropChord
      else
        dispatcher
  | none => dispatcher

/-- Drop all that is pending if fragments have been waiting for too long. -/
def expireChord (dispatcher : Dispatcher) (now : Nat) : Dispatcher :=
  match dispatcher.lastPress with
  | some last =>
      if dispatcher.settings.chordTimeout > 0 ∧ dispatcher.held ≠ [] ∧
          now - last > dispatcher.settings.chordTimeout then
        dispatcher.reset
      else
        dispatcher
  | none => dispatcher

/-- Drop what has been pending for too long. -/
def expire (dispatcher : Dispatcher) (now : Nat) : Dispatcher :=
  (dispatcher.expireLeader now).expireChord now

/-- What a press leads to through one chord, if it matches there. -/
def stepThrough?
    (held : List Fragment)
    (event : KeyEvent)
    (binding : Binding) : Option ChordStep :=
  let fragments := binding.chord.fragments
  if fragments.take held.length = held then
    match fragments.drop held.length with
    | [] => none
    | fragment :: rest =>
        (fragment.match? event).map fun c =>
          if rest.isEmpty then .leaf binding.action fragment c else .deeper fragment c
  else
    none

/-- What a press leads to in a table: the first chord that it matches decides. -/
def lookUp (dispatcher : Dispatcher) (event : KeyEvent) (table : KeyTable) : ChordStep :=
  (table.bindings.findSome? (stepThrough? dispatcher.held event)).getD .miss

/-- Whether a digit inside a chord belongs to the chord and not to the count. -/
def takesDigit (dispatcher : Dispatcher) (event : KeyEvent) (table : KeyTable) : Bool :=
  match dispatcher.lookUp event table with
  | .leaf _ fragment _ | .deeper fragment _ =>
      fragment == .any || (fragment == .key '0' && dispatcher.count == 0)
  | .miss => false

/-- Whether a digit goes to the count. -/
def countsDigit
    (dispatcher : Dispatcher)
    (digit : Nat)
    (event : KeyEvent)
    (table : KeyTable) : Bool :=
  if dispatcher.held.isEmpty then
    !dispatcher.leaderArmed && !(digit == 0 && dispatcher.count == 0)
  else
    !dispatcher.takesDigit event table

/-- Append a digit to the count. -/
def countDigit (dispatcher : Dispatcher) (digit : Nat) : Dispatcher :=
  { dispatcher with count := min (dispatcher.count * 10 + digit) maxCount }

/-- Capture the character of a fragment that stands for any key. -/
def capture (dispatcher : Dispatcher) (fragment : Fragment) (c : Char) : Dispatcher :=
  if fragment = .any then
    { dispatcher with literals := dispatcher.literals ++ [c] }
  else
    dispatcher

/-- Hold a matched fragment. -/
def hold (dispatcher : Dispatcher) (fragment : Fragment) (c : Char) : Dispatcher :=
  let captured := dispatcher.capture fragment c
  { captured with
    typed := captured.typed ++ [c]
    held := captured.held ++ [fragment] }

/-- The context that an action gets when its chord is finished. -/
def context (dispatcher : Dispatcher) : CommandContext :=
  { count := max dispatcher.count 1
    explicitCount := dispatcher.count > 0
    literals := dispatcher.literals }

/-- Try a press against the chords of a table. -/
def stepChord
    (dispatcher : Dispatcher)
    (event : KeyEvent)
    (table : KeyTable) : Option (DispatchResult × Dispatcher) :=
  match dispatcher.lookUp event table with
  | .leaf action fragment c =>
      let captured := dispatcher.capture fragment c
      some (.resolved action captured.context, captured.reset)
  | .deeper fragment c => some (.pending, dispatcher.hold fragment c)
  | .miss => none

/-- Whether a press is the leader key at the start of a chord. -/
def isLeaderPress (dispatcher : Dispatcher) (event : KeyEvent) : Bool :=
  dispatcher.held.isEmpty && !dispatcher.leaderArmed &&
    event.typedChar? == some dispatcher.settings.leader

/-- Try a press; `none` if it fits nothing. -/
def step
    (dispatcher : Dispatcher)
    (event : KeyEvent)
    (tables : KeyTables)
    (mode : Mode) : Option (DispatchResult × Dispatcher) :=
  let table := tables.table (.forMode mode dispatcher.leaderArmed)
  let counted :=
    (event.typedChar?.bind Text.digitValue?).filter fun digit =>
      dispatcher.countsDigit digit event table
  match counted with
  | some digit => some (.pending, dispatcher.countDigit digit)
  | none =>
      if dispatcher.isLeaderPress event then
        some (.leaderArmed, { dispatcher with leaderSince := some event.time })
      else
        dispatcher.stepChord event table

/-- Handle a press that fits nothing; it may be tried once more from the start. -/
def missed
    (dispatcher : Dispatcher)
    (event : KeyEvent)
    (tables : KeyTables)
    (mode : Mode) : DispatchResult × Dispatcher :=
  let wasPending := !dispatcher.held.isEmpty || dispatcher.leaderArmed
  if wasPending && dispatcher.settings.redeliver then
    (dispatcher.reset.step event tables mode).getD (.unresolved, dispatcher.reset)
  else
    (.unresolved, dispatcher.reset)

/-- Feed a press to the dispatcher. -/
def feed
    (dispatcher : Dispatcher)
    (event : KeyEvent)
    (tables : KeyTables)
    (mode : Mode) : DispatchResult × Dispatcher :=
  let current := { dispatcher.expire event.time with lastPress := some event.time }
  (current.step event tables mode).getD (current.missed event tables mode)

end Dispatcher

end ChordEditor
