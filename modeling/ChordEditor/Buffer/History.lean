import ChordEditor.Buffer.Edit

namespace ChordEditor

/-!
# Edit history

The history holds the groups that can be undone and redone, the newest first, and
the group that is being collected.  Groups nest: a group that is begun inside
another one collects its edits into the outer group and only remembers how many
edits there were before it.
-/

/-- The most groups that a new group leaves on the undo side. -/
def maxUndoDepth : Nat := 10000

/-- A group that is being collected. -/
structure OpenGroup where
  group : EditGroup
  /-- How many edits the group had at each nested beginning, the innermost first. -/
  nested : List Nat := []
  deriving Repr, DecidableEq

/-- The groups that can be undone and redone, and the one being collected. -/
structure History where
  /-- Groups that can be undone, the newest first. -/
  done : List EditGroup := []
  /-- Groups that can be redone, the one undone last first. -/
  undone : List EditGroup := []
  /-- The group being collected. -/
  collecting : Option OpenGroup := none
  deriving Repr, DecidableEq

namespace History

/-- Whether a group is being collected. -/
def inGroup (history : History) : Bool :=
  history.collecting.isSome

/-- Add a group to the undo side; when it is full the oldest group is dropped. -/
def push (history : History) (group : EditGroup) : History :=
  let kept :=
    if history.done.length ≥ maxUndoDepth then history.done.dropLast else history.done
  { history with done := group :: kept }

/-- Add a group to the undo side unless it has no edits. -/
def pushUnlessEmpty (history : History) (group : EditGroup) : History :=
  if group.isEmpty then history else history.push group

/-- Record a new edit; nothing can be redone after it. -/
def record (history : History) (edit : Edit) : History :=
  let history := { history with undone := [] }
  match history.collecting with
  | some collected =>
      { history with
        collecting := some { collected with group := collected.group.add edit } }
  | none => history.push (({} : EditGroup).add edit)

/-- Begin a group; inside another one it nests, and its description is not used. -/
def beginGroup (history : History) (description : String) : History :=
  match history.collecting with
  | some collected =>
      { history with
        collecting :=
          some { collected with nested := collected.group.size :: collected.nested } }
  | none =>
      { history with collecting := some { group := EditGroup.describedAs description } }

/-- End the innermost group; the outermost one goes to the undo side. -/
def commitGroup (history : History) : History :=
  match history.collecting with
  | none => history
  | some collected =>
      match collected.nested with
      | _ :: outer => { history with collecting := some { collected with nested := outer } }
      | [] => { history with collecting := none }.pushUnlessEmpty collected.group

/-- End all groups that are open. -/
def commitAll (history : History) : History :=
  match history.collecting with
  | none => history
  | some collected => { history with collecting := none }.pushUnlessEmpty collected.group

/-- Give up the innermost group: its edits in the order made, and the history without them. -/
def abandonGroup (history : History) : List Edit × History :=
  match history.collecting with
  | none => ([], history)
  | some collected =>
      match collected.nested with
      | kept :: outer =>
          ( collected.group.edits.drop kept,
            { history with
              collecting :=
                some
                  { group :=
                      { collected.group with edits := collected.group.edits.take kept },
                    nested := outer } } )
      | [] => (collected.group.edits, { history with collecting := none })

end History

end ChordEditor
