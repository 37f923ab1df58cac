import ChordEditor.Proofs.Buffer.EditsMade
import ChordEditor.Proofs.Session.Steps

namespace ChordEditor

/-!
# The edits of a session

Whatever is done to a session, every edit on the way fits the text that it is applied
to: those of commands are made in range, and those that are undone, redone or rolled
back come from a history that accounts for the text.
-/

namespace Buffer

/-- From a sound buffer the other one comes by edits that fit, and it is sound again. -/
def ChangesSoundly (before after : Buffer) : Prop :=
  before.Sound → after.Sound ∧ before.ChangesBy Edit.Fits after

namespace ChangesSoundly

variable {before between after : Buffer}

theorem refl (buffer : Buffer) : buffer.ChangesSoundly buffer :=
  fun sound => ⟨sound, .nothing⟩

theorem trans
    (earlier : before.ChangesSoundly between)
    (later : between.ChangesSoundly after) :
    before.ChangesSoundly after := by
  intro sound
  obtain ⟨betweenSound, first⟩ := earlier sound
  obtain ⟨afterSound, second⟩ := later betweenSound
  exact ⟨afterSound, first.trans second⟩

theorem of_performs
    (performs : before.Performs after) :
    before.ChangesSoundly after :=
  fun sound => ⟨performs.sound sound, performs.changesBy⟩

theorem beginGroup
    (buffer : Buffer)
    (description : String) :
    buffer.ChangesSoundly (buffer.beginGroup description) :=
  fun sound => ⟨sound.run (.beginGroup description), .history .nothing _⟩

theorem commitGroup (buffer : Buffer) : buffer.ChangesSoundly buffer.commitGroup :=
  fun sound => ⟨sound.run .commitGroup, .history .nothing _⟩

theorem rollbackGroup (buffer : Buffer) : buffer.ChangesSoundly buffer.rollbackGroup :=
  fun sound => ⟨sound.rollbackGroup, sound.changesBy_run .rollbackGroup⟩

theorem undo (buffer : Buffer) : buffer.ChangesSoundly buffer.undo.2 :=
  fun sound => ⟨sound.undo, sound.changesBy_run .undo⟩

theorem redo (buffer : Buffer) : buffer.ChangesSoundly buffer.redo.2 :=
  fun sound => ⟨sound.redo, sound.changesBy_run .redo⟩

/-- Steps that change every buffer soundly do so one after the other. -/
theorem replayed
    {step : Buffer → Except EditError Nat × Buffer}
    (stepsSoundly : ∀ buffer : Buffer, buffer.ChangesSoundly (step buffer).2)
    (count : Nat)
    (buffer : Buffer) :
    buffer.ChangesSoundly (Buffer.replayed step count buffer) :=
  @replayed_induction buffer.ChangesSoundly step
    (fun between earlier => earlier.trans (stepsSoundly between)) count buffer (refl buffer)

/-- A step in a group of its own changes a buffer soundly. -/
theorem of_stepsInGroup
    (steps : before.StepsInGroup after) :
    before.ChangesSoundly after := by
  cases steps with
  | refused =>
      exact refl before
  | accepted description performs =>
      exact ((beginGroup before description).trans (of_performs performs)).trans
        (commitGroup _)

end ChangesSoundly

end Buffer

namespace Editor

variable {before after : Editor}

/-- Whatever an action does to a buffer, it does soundly. -/
theorem runOn_changesSoundly
    (editor : Editor)
    (action : Action)
    (context : CommandContext) :
    editor.buffer.ChangesSoundly
      ((Commands.runAction action context).runOn editor).2.buffer := by
  by_cases isUndo : action = .undo
  -- Undo and redo replay edits of the history; every other action makes new ones.
  · subst isUndo
    obtain ⟨after, ended, _, _, replayed⟩ :=
      Commands.replay_runOn Buffer.undo "Already at oldest change" context.count editor
    rw [show Commands.runAction .undo context = _ from
      Commands.undo_eq_replay context.count, ended, replayed]
    exact .replayed Buffer.ChangesSoundly.undo context.count editor.buffer
  · by_cases isRedo : action = .redo
    · subst isRedo
      obtain ⟨after, ended, _, _, replayed⟩ :=
        Commands.replay_runOn Buffer.redo "Already at newest change" context.count editor
      rw [show Commands.runAction .redo context = _ from
        Commands.redo_eq_replay context.count, ended, replayed]
      exact .replayed Buffer.ChangesSoundly.redo context.count editor.buffer
    · have tidy : (Commands.runAction action context).Tidy False editor :=
        Commands.runAction_tidy isUndo isRedo context
      exact .of_performs tidy.works.performs

/-- An action in a group of its own changes the buffer soundly. -/
theorem runAction_changesSoundly
    (editor : Editor)
    (action : Action)
    (context : CommandContext) :
    editor.buffer.ChangesSoundly (editor.runAction action context).buffer := by
  have begins : editor.buffer.ChangesSoundly (editor.beginGroup action.name).buffer :=
    .beginGroup editor.buffer action.name
  have runs :=
    begins.trans (runOn_changesSoundly (editor.beginGroup action.name) action context)
  unfold runAction
  split
  · rename_i after ended
    rw [show (Commands.runAction action context).runOn _ = _ from ended] at runs
    split
    · exact runs
    · exact runs.trans (.commitGroup after.buffer)
  · rename_i error after ended
    rw [show (Commands.runAction action context).runOn _ = _ from ended] at runs
    exact runs.trans (.rollbackGroup after.buffer)

/-- Leaving a mode changes the buffer soundly. -/
theorem LeavesMode.changesSoundly
    (leaves : before.LeavesMode after) :
    before.buffer.ChangesSoundly after.buffer := by
  obtain ⟨performed, once, outcome⟩ := leaves.performs
  have performs : before.buffer.ChangesSoundly performed :=
    .of_performs once.performs
  rw [outcome]
  split
  · exact performs.trans (.commitGroup performed)
  · exact performs

/-- A press changes the buffer soundly. -/
theorem route_changesSoundly
    (editor : Editor)
    (event : KeyEvent) :
    editor.buffer.ChangesSoundly (editor.route event).2.buffer := by
  rcases route_cases editor event with
    ⟨action, context, idle, _, _, alike, outcome⟩ | ⟨_, steps, _⟩ | ⟨_, leaves⟩
  · rw [outcome, ← alike.buffer]
    exact runAction_changesSoundly idle action context
  · exact .of_stepsInGroup steps.steps
  · exact leaves.changesSoundly

/-- A source that is loaded comes without history. -/
theorem loadSource_buffer
    (editor : Editor)
    (source : String)
    (text : List Char) :
    (editor.loadSource source text).buffer = Buffer.ofText text := by
  unfold loadSource recallCursor
  split <;> rfl

/-- A session that is started has a history that accounts for its text. -/
theorem start_sound
    {config : Config}
    {grammars : GrammarRegistry}
    {text : List Char}
    {started : Editor}
    (isStarted : start config grammars text = .ok started) :
    started.buffer.Sound := by
  obtain ⟨empty, rfl⟩ := started_eq isStarted
  exact Buffer.sound_ofText text

end Editor

namespace Operation

/--
The editor that an event has worked on, before it is settled; a text or a grammar that is
swapped in is no event.
-/
def worked? (operation : Operation) (editor : Editor) : Option Editor :=
  match operation with
  | .handleKey event => some (editor.fresh.route event).2
  | .execute action context => some (editor.fresh.runAction action context)
  | .submitCommandLine input =>
      some (editor.fresh.closeCommandLine.runCommandLine input)
  | .loadSource _ _ | .setGrammar _ => none

/-- The edits of an event, if the operation is one, are allowed. -/
def EditsBy
    (allowed : Edit → List Char → Prop)
    (operation : Operation)
    (editor : Editor) : Prop :=
  ∀ worked,
    operation.worked? editor = some worked → editor.buffer.ChangesBy allowed worked.buffer

variable {operation : Operation} {editor worked : Editor}

/-- An event ends by settling what it has worked on. -/
theorem run_of_worked
    (isWorked : operation.worked? editor = some worked) :
    ∃ handled, operation.run editor = (worked.finishEvent editor.mode handled).2 := by
  cases operation with
  | handleKey event | execute action context | submitCommandLine input =>
      cases isWorked
      exact ⟨_, rfl⟩
  | loadSource source text | setGrammar name =>
      cases isWorked

/-- An operation that is no event swaps in a text or a grammar. -/
theorem run_of_not_worked
    (isNone : operation.worked? editor = none) :
    (∃ source text,
      operation = .loadSource source text ∧
        (operation.run editor).buffer = Buffer.ofText text) ∨
      (operation.run editor).buffer = editor.buffer := by
  cases operation with
  | handleKey event | execute action context | submitCommandLine input =>
      cases isNone
  | loadSource source text =>
      exact .inl ⟨source, text, rfl, editor.loadSource_buffer source text⟩
  | setGrammar name =>
      right
      rw [run_setGrammar]
      split <;> rfl

/-- An event changes the buffer soundly. -/
theorem worked_changesSoundly
    (isWorked : operation.worked? editor = some worked) :
    editor.buffer.ChangesSoundly worked.buffer := by
  cases operation with
  | handleKey event =>
      cases isWorked
      exact editor.fresh.route_changesSoundly event
  | execute action context =>
      cases isWorked
      exact editor.fresh.runAction_changesSoundly action context
  | submitCommandLine input =>
      cases isWorked
      have steps := (editor.fresh.closeCommandLine.runCommandLine_stepsTo input).1
      exact .of_stepsInGroup steps.steps
  | loadSource source text | setGrammar name =>
      cases isWorked

/-- The edits of an operation fit, and leave a sound buffer sound. -/
theorem run_sound
    (sound : editor.buffer.Sound)
    (operation : Operation) :
    operation.EditsBy Edit.Fits editor ∧ (operation.run editor).buffer.Sound := by
  constructor
  · intro worked isWorked
    exact (worked_changesSoundly isWorked sound).2
  · cases isWorked : operation.worked? editor with
    | some worked =>
        obtain ⟨handled, outcome⟩ := run_of_worked isWorked
        rw [outcome, Editor.finishEvent_buffer]
        exact (worked_changesSoundly isWorked sound).1
    | none =>
        rcases run_of_not_worked isWorked with ⟨source, text, _, loaded⟩ | same
        · rw [loaded]
          exact Buffer.sound_ofText text
        · rw [same]
          exact sound

end Operation

/-- Every edit of a session, whatever is done to it, fits the text that it is applied to. -/
theorem Editor.edits_fit
    {config : Config}
    {grammars : GrammarRegistry}
    {text : List Char}
    {started : Editor}
    (isStarted : start config grammars text = .ok started)
    (operations : List Operation) :
    started.EachMeets (Operation.EditsBy Edit.Fits) operations := by
  have sound := start_sound isStarted
  clear isStarted
  induction operations generalizing started with
  | nil =>
      trivial
  | cons operation operations inductionHypothesis =>
      obtain ⟨fits, soundAfter⟩ := Operation.run_sound sound operation
      exact ⟨fits, inductionHypothesis soundAfter⟩

end ChordEditor
