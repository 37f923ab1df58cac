import ChordEditor.Action
import ChordEditor.Chord

namespace ChordEditor

/-!
# Key tables

A key table binds chords to actions and keeps them in the order they were bound: of
several chords that the next press could match, the one bound first wins.
-/

/-- A chord and the action it is bound to. -/
structure Binding where
  chord : Chord
  action : Action
  deriving DecidableEq

/-- The bindings of one table, in the order they were made. -/
structure KeyTable where
  bindings : List Binding := []
  deriving DecidableEq

namespace KeyTable

/-- Bind a chord; one that is bound already keeps its place. -/
def bind (table : KeyTable) (chord : Chord) (action : Action) : KeyTable :=
  if table.bindings.any fun binding => binding.chord = chord then
    ⟨table.bindings.map fun binding =>
      if binding.chord = chord then { binding with action } else binding⟩
  else
    ⟨table.bindings ++ [⟨chord, action⟩]⟩

/-- Take the binding of a chord away. -/
def unbind (table : KeyTable) (chord : Chord) : KeyTable :=
  ⟨table.bindings.filter fun binding => binding.chord ≠ chord⟩

/-- The action that a chord is bound to. -/
def get? (table : KeyTable) (chord : Chord) : Option Action :=
  (table.bindings.find? fun binding => binding.chord = chord).map Binding.action

/-- The number of bindings. -/
def size (table : KeyTable) : Nat :=
  table.bindings.length

end KeyTable

/-- Which table a press is looked up in. -/
inductive TableName where
  | normal
  | visual
  | leaderNormal
  | leaderVisual
  deriving Repr, DecidableEq

namespace TableName

/-- The table in force in a mode, with the leader armed or not. -/
def forMode (mode : Mode) (leader : Bool) : TableName :=
  match mode.isVisual, leader with
  | false, false => .normal
  | true, false => .visual
  | false, true => .leaderNormal
  | true, true => .leaderVisual

end TableName

/-- All tables of a session. -/
structure KeyTables where
  normal : KeyTable := {}
  visual : KeyTable := {}
  leaderNormal : KeyTable := {}
  leaderVisual : KeyTable := {}

namespace KeyTables

/-- The table with a name. -/
def table (tables : KeyTables) : TableName → KeyTable
  | .normal => tables.normal
  | .visual => tables.visual
  | .leaderNormal => tables.leaderNormal
  | .leaderVisual => tables.leaderVisual

/-- Bind a chord in the table with a name. -/
def bind
    (tables : KeyTables)
    (name : TableName)
    (chord : Chord)
    (action : Action) : KeyTables :=
  match name with
  | .normal => { tables with normal := tables.normal.bind chord action }
  | .visual => { tables with visual := tables.visual.bind chord action }
  | .leaderNormal => { tables with leaderNormal := tables.leaderNormal.bind chord action }
  | .leaderVisual => { tables with leaderVisual := tables.leaderVisual.bind chord action }

end KeyTables

end ChordEditor
