import ChordEditor.Proofs.Session.Steps

namespace ChordEditor

/-!
# The edit group of insert mode

Entering insert mode leaves the group of the command open, and leaving it by the escape
key ends that group.  So an edit group is open exactly in insert mode, as long as no
action is run without a chord that undoes in insert mode or leaves it: such an action
ends only the group of its own, and strands the one of the insert session, or ends
that too early.
-/

namespace Editor

/-- An edit group is open exactly in insert mode. -/
def GroupsMatchMode (editor : Editor) : Prop :=
  editor.buffer.inGroup = true ↔ editor.mode = .insert

/-- One group is open, and noted as that of the insert session, exactly in insert mode. -/
structure InStep (editor : Editor) : Prop where
  noted : editor.insertGroupOpen = true ↔ editor.mode = .insert
  depth : editor.buffer.groupDepth = if editor.mode = .insert then 1 else 0

/-- An editor that is in step has a group open exactly in insert mode. -/
theorem InStep.groupsMatchMode
    {editor : Editor}
    (inStep : editor.InStep) :
    editor.GroupsMatchMode := by
  unfold GroupsMatchMode
  rw [Buffer.inGroup, History.inGroup_iff_groupDepth,
    show editor.buffer.history.groupDepth = _ from inStep.depth]
  split <;> simp_all

end Editor

namespace Operation

/-- An action, run without a chord, that undoes in insert mode or leaves insert mode. -/
def Strands (operation : Operation) (editor : Editor) : Prop :=
  match operation with
  | .execute action context =>
      editor.mode = .insert ∧
        ((action = .undo ∧ 0 < context.count) ∨ (operation.run editor).mode ≠ .insert)
  | _ => False

end Operation

namespace Editor

variable {before after : Editor}

theorem InStep.of_alike
    (inStep : before.InStep)
    (alike : before.Alike after) :
    after.InStep := by
  constructor
  · rw [alike.insertGroupOpen, alike.mode]
    exact inStep.noted
  · rw [alike.buffer, alike.mode]
    exact inStep.depth

/-- The editor as an event begins differs from it in what was reported before only. -/
theorem InStep.fresh
    (inStep : before.InStep) :
    before.fresh.InStep :=
  inStep.of_alike ⟨⟨rfl, rfl, rfl, rfl⟩, rfl, rfl⟩

theorem InStep.finishEvent
    (inStep : before.InStep)
    (modeBefore : Mode)
    (handled : Bool) :
    (before.finishEvent modeBefore handled).2.InStep := by
  constructor
  · rw [finishEvent_insertGroupOpen, finishEvent_mode]
    exact inStep.noted
  · rw [finishEvent_mode, finishEvent_buffer]
    exact inStep.depth

/-- A step that does not leave insert mode leaves an editor in step. -/
theorem InStep.of_stepsTo
    (inStep : before.InStep)
    (steps : before.StepsTo after)
    (keepsTyping : before.mode = .insert → after.mode = .insert) :
    after.InStep := by
  have sameTyping : after.mode = .insert ↔ before.mode = .insert := by
    constructor
    · intro typing
      rcases steps.typing typing with wasTyping | wasOpen
      · exact wasTyping
      · exact inStep.noted.mp wasOpen
    · exact keepsTyping
  constructor
  · rw [steps.insertGroupOpen, sameTyping]
    exact inStep.noted
  · rw [steps.steps.groupDepth, inStep.depth]
    simp only [sameTyping]

/-- Beginning to insert leaves an editor in step. -/
theorem InStep.of_beginsInsert
    (inStep : before.InStep)
    (begins : before.BeginsInsert after) :
    after.InStep := by
  have notTyping : before.mode ≠ .insert := by
    intro typing
    have wasOpen := inStep.noted.mpr typing
    rw [begins.wasClosed] at wasOpen
    contradiction
  obtain ⟨description, performs⟩ := begins.performs
  constructor
  · exact ⟨fun _ => begins.mode, fun _ => begins.isOpen⟩
  · rw [performs.groupDepth, Buffer.beginGroup_groupDepth, inStep.depth, begins.mode,
      if_neg notTyping, if_pos rfl]

/-- Leaving a mode leaves an editor in step. -/
theorem InStep.of_leavesMode
    (inStep : before.InStep)
    (leaves : before.LeavesMode after) :
    after.InStep := by
  obtain ⟨performed, once, outcome⟩ := leaves.performs
  constructor
  · rw [leaves.isClosed, leaves.mode]
    simp
  · rw [outcome, leaves.mode]
    have depth := inStep.depth
    rw [← once.performs.groupDepth] at depth
    by_cases typing : before.mode = .insert
    · rw [if_pos (inStep.noted.mpr typing), Buffer.commitGroup_groupDepth, depth,
        if_pos typing]
      rfl
    · have wasClosed : before.insertGroupOpen = false := by
        rw [← Bool.not_eq_true]
        exact fun wasOpen => typing (inStep.noted.mp wasOpen)
      rw [wasClosed, if_neg Bool.false_ne_true, depth, if_neg typing]
      rfl

/-- How many groups are open after undoing: none, unless nothing was asked for. -/
theorem Replays.groupDepth_undo
    {count : Nat}
    (replays : before.Replays Buffer.undo count after) :
    after.buffer.groupDepth = if count = 0 then before.buffer.groupDepth else 0 := by
  obtain ⟨description, outcome⟩ := replays.replayed
  rw [outcome, Buffer.commitGroup_groupDepth]
  split
  · rename_i nothing
    rw [nothing, Buffer.replayed, Buffer.beginGroup_groupDepth, Nat.add_sub_cancel]
  · rename_i something
    rw [Buffer.replayed_undo_groupDepth (Nat.pos_of_ne_zero something)]

/-- Redoing opens and ends no group. -/
theorem Replays.groupDepth_redo
    {count : Nat}
    (replays : before.Replays Buffer.redo count after) :
    after.buffer.groupDepth = before.buffer.groupDepth := by
  obtain ⟨description, outcome⟩ := replays.replayed
  rw [outcome, Buffer.commitGroup_groupDepth, Buffer.replayed_redo_groupDepth,
    Buffer.beginGroup_groupDepth, Nat.add_sub_cancel]

/-- Replaying that leaves as many groups open as it should leaves an editor in step. -/
theorem InStep.of_replays
    {step : Buffer → Except EditError Nat × Buffer}
    {count : Nat}
    (inStep : before.InStep)
    (replays : before.Replays step count after)
    (sameDepth : after.buffer.groupDepth = before.buffer.groupDepth) :
    after.InStep := by
  constructor
  · rw [replays.insertGroupOpen, replays.mode]
    exact inStep.noted
  · rw [sameDepth, replays.mode]
    exact inStep.depth

/-- An action that is not run in insert mode leaves an editor in step. -/
theorem InStep.runAction
    (inStep : before.InStep)
    (notTyping : before.mode ≠ .insert)
    (action : Action)
    (context : CommandContext) :
    (before.runAction action context).InStep := by
  rcases runAction_outcome inStep.noted.mpr action context with
    ⟨_, undoes⟩ | ⟨_, redoes | steps | begins⟩
  · apply inStep.of_replays undoes
    rw [undoes.groupDepth_undo, inStep.depth, if_neg notTyping]
    split <;> rfl
  · exact inStep.of_replays redoes redoes.groupDepth_redo
  · exact inStep.of_stepsTo steps fun typing => absurd typing notTyping
  · exact inStep.of_beginsInsert begins

/-- A press leaves an editor in step. -/
theorem InStep.route
    (inStep : before.InStep)
    (event : KeyEvent) :
    (before.route event).2.InStep := by
  rcases route_cases before event with
    ⟨action, context, idle, _, notTyping, alike, outcome⟩ | ⟨_, steps, keeps⟩ | ⟨_, leaves⟩
  · rw [outcome]
    apply (inStep.of_alike alike).runAction
    rw [alike.mode]
    exact notTyping
  · exact inStep.of_stepsTo steps keeps
  · exact inStep.of_leavesMode leaves

/-- A text that is swapped in comes in normal mode and without history. -/
theorem replaceDocument_inStep
    (editor : Editor)
    (text : List Char) :
    (editor.replaceDocument text).InStep :=
  { noted := by
      show false = true ↔ Mode.normal = .insert
      simp
    depth := rfl }

theorem start_inStep
    {config : Config}
    {grammars : GrammarRegistry}
    {text : List Char}
    {editor : Editor}
    (started : start config grammars text = .ok editor) :
    editor.InStep := by
  obtain ⟨empty, rfl⟩ := started_eq started
  exact replaceDocument_inStep empty text

/-- A source that is loaded is in step. -/
theorem loadSource_inStep
    (editor : Editor)
    (source : String)
    (text : List Char) :
    (editor.loadSource source text).InStep := by
  have inStep := replaceDocument_inStep editor.rememberCursor text
  unfold loadSource recallCursor
  split
  · exact inStep.of_alike ⟨⟨rfl, rfl, rfl, rfl⟩, rfl, rfl⟩
  · exact inStep.of_alike ⟨⟨rfl, rfl, rfl, rfl⟩, rfl, rfl⟩

theorem InStep.setGrammar
    (inStep : before.InStep)
    (name : String) :
    ((Operation.setGrammar name).run before).InStep := by
  rw [Operation.run_setGrammar]
  split
  · exact ⟨inStep.noted, inStep.depth⟩
  · exact inStep

/-- With the group of an insert session that has been left still open, nothing matches. -/
theorem not_groupsMatchMode_of_left
    {editor : Editor}
    (notTyping : editor.mode ≠ .insert)
    (isOpen : editor.buffer.groupDepth = 1) :
    ¬editor.GroupsMatchMode := by
  intro groupsMatch
  apply notTyping
  apply groupsMatch.mp
  rw [Buffer.inGroup, History.inGroup_iff_groupDepth,
    show editor.buffer.history.groupDepth = 1 from isOpen]
  exact Nat.one_pos

/-- With no group open in insert mode nothing matches. -/
theorem not_groupsMatchMode_of_closed
    {editor : Editor}
    (typing : editor.mode = .insert)
    (isClosed : editor.buffer.groupDepth = 0) :
    ¬editor.GroupsMatchMode := by
  intro groupsMatch
  have inGroup := groupsMatch.mpr typing
  rw [Buffer.inGroup, History.inGroup_iff_groupDepth,
    show editor.buffer.history.groupDepth = 0 from isClosed] at inGroup
  contradiction

/-- The groups of an editor match its mode before an event is ended exactly if they do after. -/
theorem groupsMatchMode_finishEvent
    (editor : Editor)
    (modeBefore : Mode)
    (handled : Bool) :
    (editor.finishEvent modeBefore handled).2.GroupsMatchMode ↔ editor.GroupsMatchMode := by
  unfold GroupsMatchMode
  rw [finishEvent_mode, finishEvent_buffer]
  rfl

/-- An action run in insert mode strands the group of the session, or leaves all in step. -/
theorem InStep.execute_cases
    (inStep : before.InStep)
    (typing : before.mode = .insert)
    (action : Action)
    (context : CommandContext) :
    if (action = .undo ∧ 0 < context.count) ∨
        (before.runAction action context).mode ≠ .insert then
      ¬(before.runAction action context).GroupsMatchMode
    else
      (before.runAction action context).InStep := by
  have depth := inStep.depth
  rw [if_pos typing] at depth
  rcases runAction_outcome inStep.noted.mpr action context with
    ⟨isUndo, undoes⟩ | ⟨notUndo, others⟩
  · -- Undoing keeps insert mode, and ends all groups unless nothing is asked for.
    have stillTyping := undoes.mode.trans typing
    split
    · rename_i strands
      rcases strands with ⟨_, someUndo⟩ | left_insert
      · apply not_groupsMatchMode_of_closed stillTyping
        rw [undoes.groupDepth_undo, if_neg (Nat.ne_of_gt someUndo)]
      · exact absurd stillTyping left_insert
    · rename_i keeps
      have noUndo : context.count = 0 :=
        Nat.eq_zero_of_not_pos fun someUndo => keeps (.inl ⟨isUndo, someUndo⟩)
      apply inStep.of_replays undoes
      rw [undoes.groupDepth_undo, if_pos noUndo]
  · -- Any other action leaves as many groups open as there were: the mode decides.
    split
    · rename_i strands
      have left_insert : (before.runAction action context).mode ≠ .insert :=
        strands.resolve_left fun undone => notUndo undone.1
      rcases others with redoes | steps | begins
      · exact absurd (redoes.mode.trans typing) left_insert
      · apply not_groupsMatchMode_of_left left_insert
        rw [steps.steps.groupDepth, depth]
      · exact absurd begins.mode left_insert
    · rename_i keeps
      have stillTyping : (before.runAction action context).mode = .insert := by
        by_cases typingStill : (before.runAction action context).mode = .insert
        · exact typingStill
        · exact absurd (.inr typingStill) keeps
      rcases others with redoes | steps | begins
      · exact inStep.of_replays redoes redoes.groupDepth_redo
      · exact inStep.of_stepsTo steps fun _ => stillTyping
      · exact inStep.of_beginsInsert begins

end Editor

namespace Operation

open Editor

variable {editor : Editor}

/-- An operation that strands nothing leaves an editor in step; one that does, does not. -/
theorem run_inStep
    (inStep : editor.InStep)
    (operation : Operation) :
    (operation.Strands editor → ¬(operation.run editor).GroupsMatchMode) ∧
      (¬operation.Strands editor → (operation.run editor).InStep) := by
  have begun := inStep.fresh
  cases operation with
  | handleKey event =>
      exact ⟨False.elim, fun _ => (begun.route event).finishEvent _ _⟩
  | submitCommandLine input =>
      refine ⟨False.elim, fun _ => ?_⟩
      obtain ⟨steps, mode⟩ :=
        runCommandLine_stepsTo editor.fresh.closeCommandLine input
      have closed : editor.fresh.closeCommandLine.InStep :=
        begun.of_alike ⟨⟨rfl, rfl, rfl, rfl⟩, rfl, rfl⟩
      exact (closed.of_stepsTo steps fun typing => mode.trans typing).finishEvent _ _
  | loadSource source text =>
      exact ⟨False.elim, fun _ => loadSource_inStep editor source text⟩
  | setGrammar name =>
      exact ⟨False.elim, fun _ => inStep.setGrammar name⟩
  | execute action context =>
      have sameMode :
          ((Operation.execute action context).run editor).mode =
            (editor.fresh.runAction action context).mode :=
        finishEvent_mode _ _ _
      unfold Strands
      rw [sameMode]
      by_cases typing : editor.mode = .insert
      · have outcome := begun.execute_cases typing action context
        split at outcome
        · rename_i strands
          refine ⟨fun _ => ?_, fun strandsNothing => absurd ⟨typing, strands⟩ strandsNothing⟩
          exact fun groupsMatch =>
            outcome ((groupsMatchMode_finishEvent _ _ _).mp groupsMatch)
        · rename_i keeps
          exact ⟨fun strands => absurd strands.2 keeps, fun _ => outcome.finishEvent _ _⟩
      · refine ⟨fun strands => absurd strands.1 typing, fun _ => ?_⟩
        exact (begun.runAction typing action context).finishEvent _ _

end Operation

namespace Editor

/--
An edit group is open exactly in insert mode after every operation of a run, exactly if
no action is run without a chord that undoes in insert mode or leaves it.
-/
theorem groups_match_mode_iff_nothing_stranded
    {config : Config}
    {grammars : GrammarRegistry}
    {text : List Char}
    {editor : Editor}
    (started : start config grammars text = .ok editor)
    (operations : List Operation) :
    editor.Throughout GroupsMatchMode operations ↔
      editor.EachMeets (fun operation between => ¬operation.Strands between) operations := by
  apply @throughout_iff_eachMeets InStep
  · intro between inStep
    exact inStep.groupsMatchMode
  · intro between operation inStep notStranded
    exact (Operation.run_inStep inStep operation).2 notStranded
  · intro between operation inStep groupsMatch stranded
    exact (Operation.run_inStep inStep operation).1 stranded groupsMatch
  · exact start_inStep started

/--
Inserting and leaving insert mode by the escape key keeps groups and mode in step;
indenting in insert mode, without a chord, strands the group of the insert session.
-/
theorem groups_match_mode_until_indenting :
    (demo ['a', 'b']).Throughout GroupsMatchMode
        [.handleKey insertPress, .handleKey { key := .escape }] ∧
      ¬(demo ['a', 'b']).Throughout GroupsMatchMode
        [.handleKey insertPress, .execute .indent {}] := by
  constructor
  · rw [groups_match_mode_iff_nothing_stranded (start_demo _)]
    exact ⟨id, id, trivial⟩
  · rw [groups_match_mode_iff_nothing_stranded (start_demo _)]
    rintro ⟨_, keeps, _⟩
    apply keeps
    exact ⟨by decide +kernel, .inr (by decide +kernel)⟩

end Editor

end ChordEditor
