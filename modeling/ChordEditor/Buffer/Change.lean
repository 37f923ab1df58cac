import ChordEditor.Buffer.Basic
import ChordEditor.Text.Occurrences

namespace ChordEditor.Buffer

/-!
# Changing a buffer

Every change of the text is an edit, and `applyEdit` is the only function that
applies one: it also counts the version and notes the lines touched.  New edits are
recorded in the history; edits that are undone, redone or rolled back are not.

A refused change leaves the buffer as it was.  A refused undo closes the groups that
were open.
-/

/-- The lines an edit touches, and by how many lines it moves those below. -/
def touchedBy (buffer : Buffer) (edit : Edit) : LineRange × Int :=
  let line := buffer.lineOf edit.place
  let breaks := Text.breakCount edit.piece
  match edit with
  | .insert _ _ => (⟨line, line + breaks⟩, breaks)
  | .delete _ _ => (⟨line, line⟩, -breaks)

/-- Apply an edit to the text without recording it. -/
def applyEdit (buffer : Buffer) (edit : Edit) : Buffer :=
  let (touched, shift) := buffer.touchedBy edit
  { buffer with
    text := edit.applyTo buffer.text
    version := buffer.version + 1
    dirty := some (LineRange.merge buffer.dirty touched shift) }

/-- Apply a new edit and record it. -/
def perform (buffer : Buffer) (edit : Edit) : Buffer :=
  let changed := buffer.applyEdit edit
  { changed with history := changed.history.record edit }

/-- Insert a piece of text at a place. -/
def insert
    (buffer : Buffer)
    (place : Nat)
    (piece : List Char) : Except EditError Buffer :=
  if buffer.clamp place < place then
    .error (.outOfRange place buffer.length)
  else if piece.isEmpty then
    .ok buffer
  else
    .ok (buffer.perform (.insert place piece))

/-- Delete the text from `start` up to `stop`, and give it back. -/
def delete
    (buffer : Buffer)
    (start stop : Nat) : Except EditError (List Char × Buffer) :=
  if start > stop then
    .error (.invalidRange start stop)
  else if buffer.clamp stop < stop then
    .error (.outOfRange stop buffer.length)
  else if start = stop then
    .ok ([], buffer)
  else
    let removed := buffer.slice start stop
    .ok (removed, buffer.perform (.delete start removed))

/-- Put a piece of text in place of the text from `start` up to `stop`, and give that back. -/
def replace
    (buffer : Buffer)
    (start stop : Nat)
    (piece : List Char) : Except EditError (List Char × Buffer) := do
  let (removed, shortened) ← buffer.delete start stop
  let changed ← shortened.insert start piece
  return (removed, changed)

/-- Replace pieces of one length by a text, at places given from last to first. -/
def replaceEach
    (buffer : Buffer)
    (length : Nat)
    (replacement : List Char) : List Nat → Except EditError Buffer
  | [] => .ok buffer
  | place :: places => do
      let (_, changed) ← buffer.replace place (place + length) replacement
      changed.replaceEach length replacement places

/-- Replace every occurrence of a text, and count them. -/
def replaceAll
    (buffer : Buffer)
    (needle replacement : List Char) : Except EditError (Nat × Buffer) :=
  if needle.isEmpty then
    .ok (0, buffer)
  else do
    let places := Text.occurrences needle buffer.text
    let changed ← buffer.replaceEach needle.length replacement places.reverse
    return (places.length, changed)

/-- Begin an edit group, inside the one that is open if there is one. -/
def beginGroup (buffer : Buffer) (description : String) : Buffer :=
  { buffer with history := buffer.history.beginGroup description }

/-- End the innermost edit group. -/
def commitGroup (buffer : Buffer) : Buffer :=
  { buffer with history := buffer.history.commitGroup }

/-- Take back edits, the last one first. -/
def revertAll (buffer : Buffer) (edits : List Edit) : Buffer :=
  edits.foldr (fun edit buffer => buffer.applyEdit edit.inverse) buffer

/-- Apply edits again, the first one first. -/
def reapplyAll (buffer : Buffer) (edits : List Edit) : Buffer :=
  edits.foldl applyEdit buffer

/-- Take back every edit made since the innermost group was begun, and end that group. -/
def rollbackGroup (buffer : Buffer) : Buffer :=
  let (edits, history) := buffer.history.abandonGroup
  { buffer with history }.revertAll edits

/-- Where the cursor goes after a group was undone or redone. -/
def anchorOf (buffer : Buffer) (group : EditGroup) : Nat :=
  buffer.clamp (group.anchor?.getD 0)

/-- Undo the newest group and give the place to go to; open groups are ended first. -/
def undo (buffer : Buffer) : Except EditError Nat × Buffer :=
  let closed := { buffer with history := buffer.history.commitAll }
  match closed.history.done with
  | [] => (.error .nothingToUndo, closed)
  | group :: older =>
      let reverted := closed.revertAll group.edits
      let history :=
        { reverted.history with
          done := older
          undone := group :: reverted.history.undone }
      let undone := { reverted with history }
      (.ok (undone.anchorOf group), undone)

/-- Redo the group undone last and give the place to go to. -/
def redo (buffer : Buffer) : Except EditError Nat × Buffer :=
  match buffer.history.undone with
  | [] => (.error .nothingToRedo, buffer)
  | group :: newer =>
      let reapplied := buffer.reapplyAll group.edits
      let history :=
        { reapplied.history with
          done := group :: reapplied.history.done
          undone := newer }
      let redone := { reapplied with history }
      (.ok (redone.anchorOf group), redone)

/-- The lines touched since the last call, and the buffer without the note of them. -/
def takeDirty (buffer : Buffer) : Option LineRange × Buffer :=
  (buffer.dirty, { buffer with dirty := none })

end ChordEditor.Buffer
