namespace ChordEditor

/-!
# Cursors

A cursor is a place and an anchor.  There is a selection when they differ; it runs
from the smaller of the two up to the larger.
-/

/-- Where the cursor is, and where the selection began. -/
structure Cursor where
  anchor : Nat := 0
  position : Nat := 0
  deriving Repr, DecidableEq

namespace Cursor

/-- A cursor without a selection. -/
def atPlace (place : Nat) : Cursor :=
  ⟨place, place⟩

/-- Whether there is a selection. -/
def hasSelection (cursor : Cursor) : Bool :=
  cursor.anchor != cursor.position

/-- Where the selection starts. -/
def start (cursor : Cursor) : Nat :=
  min cursor.anchor cursor.position

/-- Where the selection ends. -/
def stop (cursor : Cursor) : Nat :=
  max cursor.anchor cursor.position

/-- Go to a place; when the selection is extended the anchor stays. -/
def moveTo (cursor : Cursor) (place : Nat) (extend : Bool) : Cursor :=
  { anchor := if extend then cursor.anchor else place
    position := place }

/-- Drop the selection. -/
def collapse (cursor : Cursor) : Cursor :=
  .atPlace cursor.position

/-- Keep both ends within a text of the given length. -/
def clamp (cursor : Cursor) (length : Nat) : Cursor :=
  ⟨min cursor.anchor length, min cursor.position length⟩

end Cursor

end ChordEditor
