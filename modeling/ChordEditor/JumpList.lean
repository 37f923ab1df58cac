namespace ChordEditor

/-!
# The jump list

Places to go back to after a jump, and places to go forward to again.  Going one way
leaves the current place on the other side.
-/

/-- The most places that a new jump leaves on the way back. -/
def maxJumps : Nat := 100

/-- Places on the way back and on the way forward, the nearest first. -/
structure JumpList where
  behind : List Nat := []
  ahead : List Nat := []
  deriving Repr, DecidableEq

namespace JumpList

/-- Note the place that a jump leaves; when the way back is full its oldest place is dropped. -/
def push (jumps : JumpList) (place : Nat) : JumpList :=
  let kept :=
    if jumps.behind.length ≥ maxJumps then jumps.behind.dropLast else jumps.behind
  { behind := place :: kept, ahead := [] }

/-- Drop all places. -/
def clear (_ : JumpList) : JumpList :=
  {}

/-- Go back from the current place. -/
def back? (jumps : JumpList) (current : Nat) : Option (Nat × JumpList) :=
  match jumps.behind with
  | [] => none
  | place :: older => some (place, { behind := older, ahead := current :: jumps.ahead })

/-- Go forward from the current place. -/
def forward? (jumps : JumpList) (current : Nat) : Option (Nat × JumpList) :=
  match jumps.ahead with
  | [] => none
  | place :: newer => some (place, { behind := current :: jumps.behind, ahead := newer })

end JumpList

end ChordEditor
