namespace ChordEditor

/-!
# Edits

An edit inserts or deletes a piece of text at a place.  It records the piece, so
that every edit has an inverse.  A group holds the edits that are undone together.
-/

/-- One change of a text: a piece inserted or deleted at a place. -/
inductive Edit where
  | insert (place : Nat) (piece : List Char)
  | delete (place : Nat) (piece : List Char)
  deriving Repr, DecidableEq

namespace Edit

/-- Where the edit happens. -/
def place : Edit → Nat
  | .insert place _ => place
  | .delete place _ => place

/-- The piece that is inserted or deleted. -/
def piece : Edit → List Char
  | .insert _ piece => piece
  | .delete _ piece => piece

/-- The edit that takes this one back. -/
def inverse : Edit → Edit
  | .insert place piece => .delete place piece
  | .delete place piece => .insert place piece

/-- The text after the edit. -/
def applyTo : Edit → List Char → List Char
  | .insert place piece, text => text.take place ++ piece ++ text.drop place
  | .delete place piece, text => text.take place ++ text.drop (place + piece.length)

/-- Taking back twice is the edit itself. -/
@[simp]
theorem inverse_inverse (edit : Edit) : edit.inverse.inverse = edit := by
  cases edit <;> rfl

end Edit

/-- Edits that are undone and redone together, in the order they were made. -/
structure EditGroup where
  edits : List Edit := []
  description : Option String := none
  deriving Repr, DecidableEq

namespace EditGroup

/-- A group without edits that says what it is for. -/
def describedAs (description : String) : EditGroup :=
  { description := some description }

/-- Add an edit behind the others. -/
def add (group : EditGroup) (edit : Edit) : EditGroup :=
  { group with edits := group.edits ++ [edit] }

/-- The number of edits. -/
def size (group : EditGroup) : Nat :=
  group.edits.length

/-- Whether the group has no edits. -/
def isEmpty (group : EditGroup) : Bool :=
  group.edits.isEmpty

/-- The first place that the edits touch, where the cursor goes after an undo. -/
def anchor? (group : EditGroup) : Option Nat :=
  (group.edits.map Edit.place).min?

end EditGroup

/-- Why a change of a buffer is refused. -/
inductive EditError where
  | outOfRange (place length : Nat)
  | invalidRange (start stop : Nat)
  | nothingToUndo
  | nothingToRedo
  deriving Repr, DecidableEq

namespace EditError

/-- The wording of an error. -/
def message : EditError → String
  | .outOfRange place length =>
      "position " ++ toString place ++ " is outside the document (length " ++
        toString length ++ ")"
  | .invalidRange start stop =>
      "invalid range " ++ toString start ++ ".." ++ toString stop
  | .nothingToUndo => "nothing to undo"
  | .nothingToRedo => "nothing to redo"

end EditError

end ChordEditor
