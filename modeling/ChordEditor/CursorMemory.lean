namespace ChordEditor

/-!
# Remembered cursor places

For every source that was left, the place where the cursor was.  The start of a text
is where a cursor is put anyway, so that place is not stored.
-/

/-- The last cursor place of each source, at most one for a source. -/
structure CursorMemory where
  entries : List (String × Nat) := []
  deriving Repr, DecidableEq

namespace CursorMemory

/-- Forget the place of a source. -/
def forget (memory : CursorMemory) (source : String) : CursorMemory :=
  ⟨memory.entries.filter fun entry => entry.1 != source⟩

/-- Remember the place of a source; the start of the text forgets an older one. -/
def remember
    (memory : CursorMemory)
    (source : String)
    (place : Nat) : CursorMemory :=
  let others := memory.forget source
  if place = 0 then others else ⟨(source, place) :: others.entries⟩

/-- The remembered place of a source. -/
def placeIn? (memory : CursorMemory) (source : String) : Option Nat :=
  memory.entries.lookup source

/-- The number of sources with a remembered place. -/
def size (memory : CursorMemory) : Nat :=
  memory.entries.length

/-- Whether no place is remembered. -/
def isEmpty (memory : CursorMemory) : Bool :=
  memory.entries.isEmpty

end CursorMemory

end ChordEditor
