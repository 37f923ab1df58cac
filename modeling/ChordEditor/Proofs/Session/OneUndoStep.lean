import ChordEditor.Proofs.Session.InsertGroup

namespace ChordEditor

/-!
# Every command is one undo step

What a command has edited is taken back by one undo, and made again by one redo.  A
command is a press or a submitted line outside of insert mode, or a press that enters
insert mode with all that follows up to the press that leaves it.
-/

namespace Buffer

/-- At most one new edit, made with no group open, is undone by one undo. -/
theorem PerformsOnce.undoneTo
    {before after : Buffer}
    (once : PerformsOnce before after)
    (idle : before.history.collecting = none) :
    UndoneTo before after := by
  rcases once with same | ⟨edit, fits, performed⟩
  · subst same
    exact ⟨idle, fun edited => absurd rfl edited⟩
  · subst performed
    have recorded :
        (before.perform edit).history =
          { before.history with undone := [] }.push (({} : EditGroup).add edit) := by
      show before.history.record edit = _
      simp [History.record, idle]
    constructor
    · rw [recorded]
      exact idle
    · intro _
      rw [recorded]
      exact ⟨_, _, rfl, fits, rfl⟩

/-- Undoing with a group around it gives the text before the step that is undone. -/
theorem UndoneTo.undo_text
    {base buffer : Buffer}
    (undoneTo : UndoneTo base buffer)
    (edited : buffer.version ≠ base.version)
    (description : String) :
    ∃ group newer,
      (buffer.beginGroup description).undo.2.commitGroup.text = base.text ∧
        (buffer.beginGroup description).undo.2.commitGroup.history.undone =
          group :: newer ∧
        Edit.Lead group.edits base.text buffer.text := by
  obtain ⟨place, group, newer, _, text, undone, leads⟩ := undoneTo.undo_redo edited
  have sameHistory :
      buffer.undo.2.commitGroup.history = buffer.undo.2.history :=
    History.commitGroup_of_idle (undo_collecting buffer)
  rw [undo_beginGroup undoneTo.idle, sameHistory]
  exact ⟨group, newer, text, undone, leads⟩

/-- Redoing with a group around it makes the edits of the next group again. -/
theorem redo_text
    {buffer : Buffer}
    {group : EditGroup}
    {newer : List EditGroup}
    {later : List Char}
    (next : buffer.history.undone = group :: newer)
    (leads : Edit.Lead group.edits buffer.text later)
    (description : String) :
    (buffer.beginGroup description).redo.2.commitGroup.text = later := by
  have begun : (buffer.beginGroup description).history.undone = group :: newer := by
    rw [← next]
    unfold beginGroup History.beginGroup
    dsimp only
    split <;> rfl
  obtain ⟨place, redone, shape, text, _⟩ := redo_of_undone_cons begun
  rw [shape]
  show redone.text = later
  rw [text]
  exact reapplyAll_text leads

end Buffer

namespace Editor

/-- Presses from one that enters insert mode on, for as long as that is not left. -/
inductive Inserts (before : Editor) : Editor → Prop where
  | enter
      (event : KeyEvent)
      (enters : (before.handleKey event).2.mode = .insert) :
      Inserts before (before.handleKey event).2
  | press
      {between : Editor}
      (earlier : Inserts before between)
      (event : KeyEvent)
      (stays : (between.handleKey event).2.mode = .insert) :
      Inserts before (between.handleKey event).2

/--
One command: a press that does not enter insert mode and runs no undo or redo, a
submitted line, or presses from one that enters insert mode to one that leaves it.
-/
inductive RunsCommand (before : Editor) : Editor → Prop where
  | press
      (event : KeyEvent)
      (notUndo : ∀ context, before.actionOf? event ≠ some (.undo, context))
      (notRedo : ∀ context, before.actionOf? event ≠ some (.redo, context))
      (staysOut : (before.handleKey event).2.mode ≠ .insert) :
      RunsCommand before (before.handleKey event).2
  | line
      (input : List Char) :
      RunsCommand before (before.submitCommandLine input).2
  | insertion
      {inserting : Editor}
      (inserts : Inserts before inserting)
      (event : KeyEvent)
      (leaves : (inserting.handleKey event).2.mode ≠ .insert) :
      RunsCommand before (inserting.handleKey event).2

variable {before after inserting : Editor}

/-- Outside of insert mode no group is open. -/
theorem InStep.idle
    (inStep : before.InStep)
    (notTyping : before.mode ≠ .insert) :
    before.buffer.history.collecting = none := by
  rw [← Buffer.groupDepth_eq_zero_iff, inStep.depth, if_neg notTyping]

/-- An action that enters insert mode begins to insert. -/
theorem InStep.beginsInsert
    {action : Action}
    {context : CommandContext}
    (inStep : before.InStep)
    (notTyping : before.mode ≠ .insert)
    (enters : (before.runAction action context).mode = .insert) :
    before.BeginsInsert (before.runAction action context) := by
  rcases runAction_outcome inStep.noted.mpr action context with
    ⟨_, undoes⟩ | ⟨_, redoes | steps | begins⟩
  · exact absurd (undoes.mode.symm.trans enters) notTyping
  · exact absurd (redoes.mode.symm.trans enters) notTyping
  · rcases steps.typing enters with wasTyping | wasOpen
    · exact absurd wasTyping notTyping
    · exact absurd (inStep.noted.mp wasOpen) notTyping
  · exact begins

/-- The edits of a press that enters insert mode are pending. -/
theorem InStep.pending_of_enter
    {event : KeyEvent}
    (inStep : before.InStep)
    (notTyping : before.mode ≠ .insert)
    (enters : (before.route event).2.mode = .insert) :
    Buffer.PendingSince before.buffer (before.route event).2.buffer := by
  rcases route_cases before event with
    ⟨action, context, idle, _, _, alike, outcome⟩ | ⟨_, steps, _⟩ | ⟨_, leaves⟩
  · rw [outcome] at enters
    have idleNotTyping : idle.mode ≠ .insert := by
      rw [alike.mode]
      exact notTyping
    have begins :=
      ((inStep.of_alike alike).beginsInsert idleNotTyping enters).of_prepared alike
    obtain ⟨description, performs⟩ := begins.performs
    rw [outcome]
    exact (Buffer.PendingSince.beginGroup_of_idle (inStep.idle notTyping) _).performs performs
  · rcases steps.typing enters with wasTyping | wasOpen
    · exact absurd wasTyping notTyping
    · exact absurd (inStep.noted.mp wasOpen) notTyping
  · rw [leaves.mode] at enters
    contradiction

/-- The edits of a press that stays in insert mode are pending behind the others. -/
theorem pending_of_press
    {base : Buffer}
    {event : KeyEvent}
    (typing : inserting.mode = .insert)
    (pending : Buffer.PendingSince base inserting.buffer)
    (stays : (inserting.route event).2.mode = .insert) :
    Buffer.PendingSince base (inserting.route event).2.buffer := by
  rcases route_cases inserting event with
    ⟨action, context, idle, _, notTyping, _, _⟩ | ⟨_, steps, _⟩ | ⟨_, leaves⟩
  · exact absurd typing notTyping
  · exact pending.stepsInGroup steps.steps
  · rw [leaves.mode] at stays
    contradiction

/-- The press that leaves insert mode ends the group with all that was pending. -/
theorem InStep.undoneTo_of_leave
    {base : Buffer}
    {event : KeyEvent}
    (inStep : inserting.InStep)
    (typing : inserting.mode = .insert)
    (pending : Buffer.PendingSince base inserting.buffer)
    (leavesInsert : (inserting.route event).2.mode ≠ .insert) :
    Buffer.UndoneTo base (inserting.route event).2.buffer := by
  rcases route_cases inserting event with
    ⟨action, context, idle, _, notTyping, _, _⟩ | ⟨_, _, keeps⟩ | ⟨_, leaves⟩
  · exact absurd typing notTyping
  · exact absurd (keeps typing) leavesInsert
  · obtain ⟨performed, once, outcome⟩ := leaves.performs
    rw [outcome, if_pos (inStep.noted.mpr typing)]
    apply (pending.performs once.performs).undoneTo
    rw [once.performs.groupDepth, inStep.depth, if_pos typing]

/-- A press outside of insert mode that runs no undo or redo is undone by one undo. -/
theorem InStep.undoneTo_of_press
    {event : KeyEvent}
    (inStep : before.InStep)
    (notTyping : before.mode ≠ .insert)
    (notUndo : ∀ context, before.actionOf? event ≠ some (.undo, context))
    (notRedo : ∀ context, before.actionOf? event ≠ some (.redo, context))
    (staysOut : (before.route event).2.mode ≠ .insert) :
    Buffer.UndoneTo before.buffer (before.route event).2.buffer := by
  have idleGroups := inStep.idle notTyping
  rcases route_cases before event with
    ⟨action, context, idle, runs, _, alike, outcome⟩ | ⟨_, steps, _⟩ | ⟨_, leaves⟩
  · have isUndo : action ≠ .undo := fun undoes => notUndo context (undoes ▸ runs)
    have isRedo : action ≠ .redo := fun redoes => notRedo context (redoes ▸ runs)
    rw [outcome] at staysOut ⊢
    rcases runAction_cases isUndo isRedo context with steps | begins
    · exact (steps.of_prepared alike).steps.undoneTo idleGroups
    · exact absurd begins.mode staysOut
  · exact steps.steps.undoneTo idleGroups
  · obtain ⟨performed, once, outcome⟩ := leaves.performs
    have wasClosed : ¬before.insertGroupOpen = true :=
      fun wasOpen => notTyping (inStep.noted.mp wasOpen)
    rw [outcome, if_neg wasClosed]
    exact once.undoneTo idleGroups

/-- Throughout an insert session the edits since its beginning are pending. -/
theorem Inserts.pending
    (inserts : before.Inserts inserting)
    (inStep : before.InStep)
    (notTyping : before.mode ≠ .insert) :
    inserting.InStep ∧
      inserting.mode = .insert ∧
        Buffer.PendingSince before.buffer inserting.buffer := by
  induction inserts with
  | enter event enters =>
      refine ⟨(Operation.run_inStep inStep (.handleKey event)).2 id, enters, ?_⟩
      rw [handleKey_mode] at enters
      have pending := inStep.fresh.pending_of_enter notTyping enters
      rw [handleKey_buffer]
      exact ⟨pending.isOpen, pending.leads, pending.counted⟩
  -- A press in insert mode is a step in a nested group, or it would have left the mode.
  | @press between _ event stays inductionHypothesis =>
      obtain ⟨betweenInStep, typing, pendingBefore⟩ := inductionHypothesis
      refine ⟨(Operation.run_inStep betweenInStep (.handleKey event)).2 id, stays, ?_⟩
      rw [handleKey_mode] at stays
      have pending : Buffer.PendingSince before.buffer (between.fresh.route event).2.buffer :=
        pending_of_press typing pendingBefore stays
      rw [handleKey_buffer]
      exact ⟨pending.isOpen, pending.leads, pending.counted⟩

/-- A command leaves the editor outside of insert mode, and one undo takes it back. -/
theorem RunsCommand.undoneTo
    (runs : before.RunsCommand after)
    (inStep : before.InStep)
    (notTyping : before.mode ≠ .insert) :
    after.mode ≠ .insert ∧ Buffer.UndoneTo before.buffer after.buffer := by
  have begun := inStep.fresh
  cases runs with
  | press event notUndo notRedo staysOut =>
      refine ⟨staysOut, ?_⟩
      rw [handleKey_mode] at staysOut
      have undoneTo := begun.undoneTo_of_press notTyping notUndo notRedo staysOut
      rw [handleKey_buffer]
      exact ⟨undoneTo.idle, undoneTo.newest⟩
  | line input =>
      obtain ⟨steps, mode⟩ := runCommandLine_stepsTo before.fresh.closeCommandLine input
      have undoneTo := steps.steps.undoneTo (inStep.idle notTyping)
      constructor
      · unfold submitCommandLine
        rw [finishEvent_mode]
        exact fun typing => notTyping (mode.symm.trans typing)
      · unfold submitCommandLine
        rw [finishEvent_buffer]
        exact ⟨undoneTo.idle, undoneTo.newest⟩
  | @insertion inserting inserts event leaves =>
      obtain ⟨insertingInStep, typing, pending⟩ := inserts.pending inStep notTyping
      refine ⟨leaves, ?_⟩
      rw [handleKey_mode] at leaves
      have undoneTo : Buffer.UndoneTo before.buffer (inserting.fresh.route event).2.buffer :=
        insertingInStep.fresh.undoneTo_of_leave typing pending leaves
      rw [handleKey_buffer]
      exact ⟨undoneTo.idle, undoneTo.newest⟩

/-- What undoing or redoing once, without a chord, makes of mode and buffer. -/
theorem execute_replaying
    {action : Action}
    {step : Buffer → Except EditError Nat × Buffer}
    (replays : after.fresh.Replays step 1 (after.fresh.runAction action {})) :
    (after.execute action {}).2.mode = after.mode ∧
      ∃ description,
        (after.execute action {}).2.buffer =
          { (step (after.buffer.beginGroup description)).2.commitGroup with dirty := none } := by
  obtain ⟨description, replayed⟩ := replays.replayed
  rw [Buffer.replayed_one] at replayed
  unfold execute
  rw [finishEvent_mode, finishEvent_buffer]
  refine ⟨replays.mode, description, ?_⟩
  show { (after.fresh.runAction action {}).buffer with dirty := none } = _
  rw [replayed]
  rfl

/-- A run in which no action is run without a chord leaves an editor in step. -/
theorem InStep.afterAll
    {operations : List Operation}
    (inStep : before.InStep)
    (noExecute : ∀ operation ∈ operations, operation.isExecute = false) :
    (before.afterAll operations).InStep := by
  have preserved
      (between : Editor)
      (operation : Operation)
      (inStepBetween : between.InStep)
      (notExecute : operation.isExecute = false) :
      (operation.run between).InStep := by
    apply (Operation.run_inStep inStepBetween operation).2
    cases operation with
    | execute action context => contradiction
    | handleKey | submitCommandLine | loadSource | setGrammar => exact id
  have throughout : before.Throughout InStep operations :=
    throughout_of_eachMeets preserved inStep
      (eachMeets_of_forall (fun operation isOne _ => noExecute operation isOne) before)
  exact throughout.last

/--
Whatever a command has edited, one undo right after it gives back the text before the
command, and one redo after that gives back the text before the undo.
-/
theorem command_is_one_undo_step
    {config : Config}
    {grammars : GrammarRegistry}
    {text : List Char}
    {started after : Editor}
    {operations : List Operation}
    (isStarted : start config grammars text = .ok started)
    (noExecute : ∀ operation ∈ operations, operation.isExecute = false)
    (notTyping : (started.afterAll operations).mode ≠ .insert)
    (runs : (started.afterAll operations).RunsCommand after)
    (edited : after.buffer.version ≠ (started.afterAll operations).buffer.version) :
    (after.execute .undo {}).2.buffer.text = (started.afterAll operations).buffer.text ∧
      ((after.execute .undo {}).2.execute .redo {}).2.buffer.text = after.buffer.text := by
  have inStep := (start_inStep isStarted).afterAll noExecute
  obtain ⟨afterNotTyping, undoneTo⟩ := runs.undoneTo inStep notTyping
  have undoes :
      after.fresh.Replays Buffer.undo 1 (after.fresh.runAction .undo {}) :=
    runAction_undo {} fun typing => absurd typing afterNotTyping
  obtain ⟨undoneMode, description, undoneBuffer⟩ := execute_replaying undoes
  -- The undo gives the text before the command and leaves its edits first on the redo side,
  -- where the redo takes them up again.
  obtain ⟨group, newer, undoneText, next, leads⟩ := undoneTo.undo_text edited description
  generalize (after.execute .undo {}).2 = undone at undoneMode undoneBuffer ⊢
  have textBefore : undone.buffer.text = (started.afterAll operations).buffer.text := by
    rw [undoneBuffer]
    exact undoneText
  refine ⟨textBefore, ?_⟩
  have redoes :
      undone.fresh.Replays Buffer.redo 1 (undone.fresh.runAction .redo {}) :=
    runAction_redo {} fun typing => absurd (undoneMode.symm.trans typing) afterNotTyping
  obtain ⟨_, description, redoneBuffer⟩ := execute_replaying redoes
  rw [redoneBuffer]
  have nextUndone : undone.buffer.history.undone = group :: newer := by
    rw [undoneBuffer]
    exact next
  rw [← textBefore] at leads
  exact Buffer.redo_text nextUndone leads description

/-- A line broken in an insert session is undone as one step, and redone. -/
theorem breaking_a_line_is_one_undo_step :
    ∃ after,
      (demo ['a', 'b']).RunsCommand after ∧
        after.buffer.text = ['\n', 'a', 'b'] ∧
        (after.execute .undo {}).2.buffer.text = ['a', 'b'] ∧
        ((after.execute .undo {}).2.execute .redo {}).2.buffer.text = ['\n', 'a', 'b'] := by
  have entered :=
    @Inserts.enter (demo ['a', 'b']) insertPress (by decide +kernel)
  have broken := entered.press { key := .enter } (by decide +kernel)
  have runs := RunsCommand.insertion broken { key := .escape } (by decide +kernel)
  have text :
      ((((demo ['a', 'b']).handleKey insertPress).2.handleKey { key := .enter }).2.handleKey
        { key := .escape }).2.buffer.text = ['\n', 'a', 'b'] := by
    decide +kernel
  obtain ⟨undone, redone⟩ :=
    @command_is_one_undo_step _ _ _ _ _ [] (start_demo ['a', 'b']) nofun
      (by decide +kernel) runs (by decide +kernel)
  exact ⟨_, runs, text, undone, redone.trans text⟩

end Editor

end ChordEditor
