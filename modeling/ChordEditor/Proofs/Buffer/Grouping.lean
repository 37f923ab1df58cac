import ChordEditor.Proofs.Buffer.UndoRedo

namespace ChordEditor

/-!
# Edits made in one group

A command edits inside a group of its own.  Here it is said what the groups that are
open hold: how many there are (`groupDepth`), that a step in a group of its own leaves
as many open as there were (`StepsInGroup`), and that the edits pending since some
buffer are all that has been made since then (`PendingSince`).  A group that is closed
with such edits in it is undone as a whole and redone as a whole.
-/

namespace History

/-- How many groups are open. -/
def groupDepth (history : History) : Nat :=
  match history.collecting with
  | none => 0
  | some collected => collected.nested.length + 1

/-- A group is being collected exactly if some are open. -/
theorem inGroup_iff_groupDepth (history : History) :
    history.inGroup = true ↔ 0 < history.groupDepth := by
  unfold inGroup groupDepth
  cases history.collecting <;> simp

/-- The group that is collected once a group has been begun. -/
def opened (history : History) (description : String) : OpenGroup :=
  match history.collecting with
  | some collected => { collected with nested := collected.group.size :: collected.nested }
  | none => { group := EditGroup.describedAs description }

theorem beginGroup_eq
    (history : History)
    (description : String) :
    history.beginGroup description =
      { history with collecting := some (history.opened description) } := by
  unfold History.beginGroup opened
  cases history.collecting <;> rfl

/-- No group is open exactly if none is being collected. -/
theorem groupDepth_eq_zero_iff (history : History) :
    history.groupDepth = 0 ↔ history.collecting = none := by
  unfold groupDepth
  cases history.collecting <;> simp

@[simp]
theorem beginGroup_groupDepth
    (history : History)
    (description : String) :
    (history.beginGroup description).groupDepth = history.groupDepth + 1 := by
  unfold History.beginGroup groupDepth
  cases history.collecting <;> rfl

@[simp]
theorem commitGroup_groupDepth (history : History) :
    history.commitGroup.groupDepth = history.groupDepth - 1 := by
  cases collecting : history.collecting with
  | none =>
      simp [History.commitGroup, groupDepth, collecting]
  | some collected =>
      cases nested : collected.nested with
      | nil =>
          simp [History.commitGroup, groupDepth, collecting, nested]
      | cons size outer =>
          simp [History.commitGroup, groupDepth, collecting, nested]

@[simp]
theorem record_groupDepth
    (history : History)
    (edit : Edit) :
    (history.record edit).groupDepth = history.groupDepth := by
  unfold History.record groupDepth
  cases collecting : history.collecting with
  | none =>
      simp
  | some collected =>
      rfl

@[simp]
theorem beginGroup_pending
    (history : History)
    (description : String) :
    (history.beginGroup description).pending = history.pending := by
  unfold History.beginGroup pending
  cases history.collecting <;> rfl

/-- A new edit is pending behind the others while a group is open. -/
theorem record_pending
    {history : History}
    (isOpen : 0 < history.groupDepth)
    (edit : Edit) :
    (history.record edit).pending = history.pending ++ [edit] := by
  unfold groupDepth at isOpen
  unfold History.record pending
  cases collecting : history.collecting with
  | none =>
      simp [collecting] at isOpen
  | some collected =>
      rfl

/-- Ending a nested group leaves the pending edits as they are. -/
theorem commitGroup_pending
    {history : History}
    (isNested : 1 < history.groupDepth) :
    history.commitGroup.pending = history.pending := by
  obtain ⟨done, undone, collecting⟩ := history
  cases collecting with
  | none =>
      simp [groupDepth] at isNested
  | some collected =>
      obtain ⟨group, nested⟩ := collected
      cases nested with
      | nil =>
          simp [groupDepth] at isNested
      | cons size outer =>
          rfl

/-- Ending the only group puts its edits on the undo side. -/
theorem commitGroup_done
    {history : History}
    (isOnly : history.groupDepth = 1)
    (someEdits : history.pending ≠ []) :
    ∃ group older,
      history.commitGroup.done = group :: older ∧ group.edits = history.pending := by
  unfold groupDepth at isOnly
  cases collecting : history.collecting with
  | none =>
      simp [collecting] at isOnly
  | some collected =>
      have edits := pending_of_collecting collecting
      have notEmpty : collected.group.isEmpty = false := by
        rw [EditGroup.isEmpty, List.isEmpty_eq_false_iff, ← edits]
        exact someEdits
      have nothingNested : collected.nested = [] := by
        simpa [collecting] using isOnly
      simp only [History.commitGroup, collecting, nothingNested, pushUnlessEmpty, notEmpty,
        push, edits]
      exact ⟨_, _, rfl, rfl⟩

/-- Ending groups where none is open changes nothing. -/
theorem commitGroup_of_idle
    {history : History}
    (idle : history.collecting = none) :
    history.commitGroup = history := by
  rw [History.commitGroup, idle]

/-- A first group that is begun and closed with all others leaves nothing behind. -/
theorem commitAll_beginGroup
    {history : History}
    (idle : history.collecting = none)
    (description : String) :
    (history.beginGroup description).commitAll = history := by
  obtain ⟨done, undone, collecting⟩ := history
  cases idle
  rfl

/-- A group that is begun and given up at once leaves nothing behind. -/
theorem abandonGroup_beginGroup
    (history : History)
    (description : String) :
    (history.beginGroup description).abandonGroup = ([], history) := by
  obtain ⟨done, undone, collecting⟩ := history
  cases collecting with
  | none =>
      rfl
  | some collected =>
      simp [History.beginGroup, History.abandonGroup, EditGroup.size]

end History

namespace Buffer

/-- How many groups are open. -/
def groupDepth (buffer : Buffer) : Nat :=
  buffer.history.groupDepth

@[simp]
theorem beginGroup_groupDepth
    (buffer : Buffer)
    (description : String) :
    (buffer.beginGroup description).groupDepth = buffer.groupDepth + 1 :=
  History.beginGroup_groupDepth buffer.history description

@[simp]
theorem commitGroup_groupDepth (buffer : Buffer) :
    buffer.commitGroup.groupDepth = buffer.groupDepth - 1 :=
  History.commitGroup_groupDepth buffer.history

/-- No group is open exactly if none is being collected. -/
theorem groupDepth_eq_zero_iff (buffer : Buffer) :
    buffer.groupDepth = 0 ↔ buffer.history.collecting = none :=
  History.groupDepth_eq_zero_iff buffer.history

/-- New edits open and end no group. -/
theorem Performs.groupDepth
    {before after : Buffer}
    (performs : Performs before after) :
    after.groupDepth = before.groupDepth := by
  induction performs with
  | nothing =>
      rfl
  | edit _ edit _ inductionHypothesis =>
      rw [← inductionHypothesis]
      exact History.record_groupDepth _ edit

/-- A group that is begun and rolled back at once leaves nothing behind. -/
theorem rollbackGroup_beginGroup
    (buffer : Buffer)
    (description : String) :
    (buffer.beginGroup description).rollbackGroup = buffer := by
  unfold rollbackGroup beginGroup
  dsimp only
  rw [History.abandonGroup_beginGroup]
  rfl

/-- What a step makes of a buffer that edits in a group of its own, or is refused. -/
inductive StepsInGroup (before : Buffer) : Buffer → Prop where
  | refused :
      StepsInGroup before before
  | accepted
      {performed : Buffer}
      (description : String)
      (performs : (before.beginGroup description).Performs performed) :
      StepsInGroup before performed.commitGroup

/-- A step in a group of its own leaves as many groups open as there were. -/
theorem StepsInGroup.groupDepth
    {before after : Buffer}
    (steps : StepsInGroup before after) :
    after.groupDepth = before.groupDepth := by
  cases steps with
  | refused =>
      rfl
  | accepted description performs =>
      rw [commitGroup_groupDepth, performs.groupDepth, beginGroup_groupDepth]
      exact Nat.add_sub_cancel _ _

/-- Some group is open, and the edits that are pending are those made since `base`. -/
structure PendingSince (base buffer : Buffer) : Prop where
  isOpen : 0 < buffer.groupDepth
  leads : Edit.Lead buffer.history.pending base.text buffer.text
  counted : buffer.version = base.version + buffer.history.pending.length

namespace PendingSince

variable {base before after : Buffer}

/-- In a group begun where none was open nothing is pending. -/
theorem beginGroup_of_idle
    (idle : base.history.collecting = none)
    (description : String) :
    PendingSince base (base.beginGroup description) := by
  have nothingPending : (base.beginGroup description).history.pending = [] := by
    show (base.history.beginGroup description).pending = []
    rw [History.beginGroup_pending, History.pending, idle]
  constructor
  · rw [beginGroup_groupDepth]
    exact Nat.succ_pos _
  · rw [nothingPending]
    rfl
  · rw [nothingPending]
    rfl

/-- Beginning a nested group changes nothing in what is pending. -/
theorem beginGroup
    (pending : PendingSince base before)
    (description : String) :
    PendingSince base (before.beginGroup description) := by
  have same : (before.beginGroup description).history.pending = before.history.pending :=
    History.beginGroup_pending before.history description
  constructor
  · rw [beginGroup_groupDepth]
    exact Nat.succ_pos _
  · rw [same]
    exact pending.leads
  · rw [same]
    exact pending.counted

/-- New edits are pending behind the others. -/
theorem performs
    (pending : PendingSince base before)
    (performs : before.Performs after) :
    PendingSince base after := by
  induction performs with
  | nothing =>
      exact pending
  | @edit between _ edit fits inductionHypothesis =>
      -- A group is open, so the edit is recorded in it and not as a group of its own.
      have recorded : (between.perform edit).history.pending =
          between.history.pending ++ [edit] :=
        History.record_pending inductionHypothesis.isOpen edit
      constructor
      · rw [(Performs.edit .nothing edit fits).groupDepth]
        exact inductionHypothesis.isOpen
      · rw [recorded]
        exact Edit.lead_concat inductionHypothesis.leads fits
      · rw [recorded, List.length_append, ← Nat.add_assoc, ← inductionHypothesis.counted]
        rfl

/-- Ending a nested group changes nothing in what is pending. -/
theorem commitGroup
    (pending : PendingSince base before)
    (isNested : 1 < before.groupDepth) :
    PendingSince base before.commitGroup := by
  have same : before.commitGroup.history.pending = before.history.pending :=
    History.commitGroup_pending isNested
  constructor
  · rw [commitGroup_groupDepth]
    omega
  · rw [same]
    exact pending.leads
  · rw [same]
    exact pending.counted

/-- A step in a nested group adds its edits to those that are pending. -/
theorem stepsInGroup
    (pending : PendingSince base before)
    (steps : StepsInGroup before after) :
    PendingSince base after := by
  cases steps with
  | refused =>
      exact pending
  | accepted description performs =>
      apply ((pending.beginGroup description).performs performs).commitGroup
      rw [performs.groupDepth, beginGroup_groupDepth]
      exact Nat.succ_lt_succ pending.isOpen

end PendingSince

/-- No group is open, and undoing the newest group, if anything was edited, gives `base`. -/
structure UndoneTo (base buffer : Buffer) : Prop where
  idle : buffer.history.collecting = none
  newest :
    buffer.version ≠ base.version →
      ∃ group older,
        buffer.history.done = group :: older ∧
          Edit.Lead group.edits base.text buffer.text

/-- Ending the only group with all edits since `base` in it lets one undo give `base`. -/
theorem PendingSince.undoneTo
    {base buffer : Buffer}
    (pending : PendingSince base buffer)
    (isOnly : buffer.groupDepth = 1) :
    UndoneTo base buffer.commitGroup := by
  constructor
  · rw [← groupDepth_eq_zero_iff, commitGroup_groupDepth, isOnly]
  · intro edited
    have someEdits : buffer.history.pending ≠ [] := by
      intro nothingPending
      apply edited
      show buffer.version = base.version
      rw [pending.counted, nothingPending]
      rfl
    obtain ⟨group, older, done, edits⟩ := History.commitGroup_done isOnly someEdits
    refine ⟨group, older, done, ?_⟩
    rw [edits]
    exact pending.leads

/-- A step in the only group, if it edits anything, is undone by one undo. -/
theorem StepsInGroup.undoneTo
    {before after : Buffer}
    (steps : StepsInGroup before after)
    (idle : before.history.collecting = none) :
    UndoneTo before after := by
  cases steps with
  | refused =>
      exact ⟨idle, fun edited => absurd rfl edited⟩
  | accepted description performs =>
      apply ((PendingSince.beginGroup_of_idle idle description).performs performs).undoneTo
      rw [performs.groupDepth, beginGroup_groupDepth, (groupDepth_eq_zero_iff _).mpr idle]

/-- With no group open, an undo does not see a group that is begun for it. -/
theorem undo_beginGroup
    {buffer : Buffer}
    (idle : buffer.history.collecting = none)
    (description : String) :
    (buffer.beginGroup description).undo = buffer.undo := by
  rw [← undo_closed, ← undo_closed buffer]
  unfold closed beginGroup
  rw [History.commitAll_beginGroup idle, commitAll_of_idle idle]

/-- After an undo no group is open. -/
theorem undo_collecting (buffer : Buffer) : buffer.undo.2.history.collecting = none := by
  cases done : buffer.history.commitAll.done with
  | nil =>
      rw [undo_of_done_nil done]
      exact commitAll_collecting _
  | cons group older =>
      obtain ⟨place, undone, shape, _, history⟩ := undo_of_done_cons done
      rw [shape, history]
      exact commitAll_collecting _

/-- A redo opens and ends no group. -/
theorem redo_collecting (buffer : Buffer) :
    buffer.redo.2.history.collecting = buffer.history.collecting := by
  cases undone : buffer.history.undone with
  | nil =>
      rw [redo_of_undone_nil undone]
  | cons group newer =>
      obtain ⟨place, redone, shape, _, history⟩ := redo_of_undone_cons undone
      rw [shape, history]

/-- One undo gives the text before the step, and what one redo makes of it is the text after. -/
theorem UndoneTo.undo_redo
    {base buffer : Buffer}
    (undoneTo : UndoneTo base buffer)
    (edited : buffer.version ≠ base.version) :
    ∃ place group newer,
      buffer.undo.1 = .ok place ∧
        buffer.undo.2.text = base.text ∧
        buffer.undo.2.history.undone = group :: newer ∧
        Edit.Lead group.edits base.text buffer.text := by
  obtain ⟨group, older, done, leads⟩ := undoneTo.newest edited
  have closedDone : buffer.history.commitAll.done = group :: older := by
    rw [commitAll_of_idle undoneTo.idle]
    exact done
  obtain ⟨place, undone, shape, text, history⟩ := undo_of_done_cons closedDone
  refine ⟨place, group, buffer.history.commitAll.undone, ?_, ?_, ?_, leads⟩
  · rw [shape]
  · rw [shape, text]
    exact revertAll_text leads
  · rw [shape, history]

end Buffer

end ChordEditor
