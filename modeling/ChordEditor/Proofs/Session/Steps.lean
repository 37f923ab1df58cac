import ChordEditor.Proofs.Commands.Replaying
import ChordEditor.Proofs.Commands.Submitted
import ChordEditor.Proofs.Commands.Typing
import ChordEditor.Proofs.Session.Operations

namespace ChordEditor

namespace Editor

/-!
# What an event can do to text, mode and groups

An event leaves the text alone, or takes one step in a group of its own (`StepsTo`),
or begins to insert and leaves its group open (`BeginsInsert`), or leaves a mode and
ends the group of the insert session (`LeavesMode`), or undoes or redoes.  No event
changes the grammar or the highlighting before it is ended.
-/

/-- One step in a group of its own; insert mode is not entered by it. -/
structure StepsTo
    (before after : Editor) : Prop extends KeepsSession before after where
  steps : before.buffer.StepsInGroup after.buffer
  typing :
    after.mode = .insert → before.mode = .insert ∨ before.insertGroupOpen = true

/-- A step that begins to insert, and leaves its group open. -/
structure BeginsInsert (before after : Editor) : Prop where
  grammar : after.grammar = before.grammar
  grammars : after.grammars = before.grammars
  highlight : after.highlight = before.highlight
  wasClosed : before.insertGroupOpen = false
  isOpen : after.insertGroupOpen = true
  mode : after.mode = .insert
  performs :
    ∃ description, (before.buffer.beginGroup description).Performs after.buffer

/-- A mode is left for normal mode, and the group of the insert session is ended. -/
structure LeavesMode (before after : Editor) : Prop where
  grammar : after.grammar = before.grammar
  grammars : after.grammars = before.grammars
  highlight : after.highlight = before.highlight
  notNormal : before.mode ≠ .normal
  mode : after.mode = .normal
  isClosed : after.insertGroupOpen = false
  performs :
    ∃ performed,
      before.buffer.PerformsOnce performed ∧
        after.buffer =
          if before.insertGroupOpen then performed.commitGroup else performed

/-- Groups are undone or redone, by steps of the buffer. -/
structure Replays
    (step : Buffer → Except EditError Nat × Buffer)
    (count : Nat)
    (before after : Editor) : Prop extends KeepsSession before after where
  mode : after.mode = before.mode
  replayed :
    ∃ description,
      after.buffer =
        (Buffer.replayed step count (before.buffer.beginGroup description)).commitGroup

/-- What leaves text, mode and session alone is a step that edits nothing. -/
theorem StepsTo.of_same
    {before after : Editor}
    (keeps : before.KeepsSession after)
    (sameBuffer : after.buffer = before.buffer)
    (sameMode : after.mode = before.mode) :
    before.StepsTo after :=
  { keeps with
    steps := by
      rw [sameBuffer]
      exact .refused
    typing := fun typing => .inl (sameMode ▸ typing) }

/-- Text, mode, groups, grammar and highlighting of two editors are the same. -/
structure Alike (first second : Editor) : Prop extends KeepsSession first second where
  buffer : second.buffer = first.buffer
  mode : second.mode = first.mode

section Alike

variable {before prepared after : Editor}

theorem StepsTo.of_prepared
    (steps : prepared.StepsTo after)
    (alike : before.Alike prepared) :
    before.StepsTo after :=
  { grammar := steps.grammar.trans alike.grammar
    grammars := steps.grammars.trans alike.grammars
    highlight := steps.highlight.trans alike.highlight
    insertGroupOpen := steps.insertGroupOpen.trans alike.insertGroupOpen
    steps := alike.buffer ▸ steps.steps
    typing := alike.mode ▸ alike.insertGroupOpen ▸ steps.typing }

theorem BeginsInsert.of_prepared
    (begins : prepared.BeginsInsert after)
    (alike : before.Alike prepared) :
    before.BeginsInsert after :=
  { grammar := begins.grammar.trans alike.grammar
    grammars := begins.grammars.trans alike.grammars
    highlight := begins.highlight.trans alike.highlight
    wasClosed := alike.insertGroupOpen ▸ begins.wasClosed
    isOpen := begins.isOpen
    mode := begins.mode
    performs := alike.buffer ▸ begins.performs }

end Alike

variable {editor : Editor}

/-- An action that is accepted ends its group, unless it begins to insert. -/
theorem runAction_of_ended
    {action : Action}
    {context : CommandContext}
    {after : Editor}
    (ended :
      (editor.beginGroup action.name).attempt (Commands.runAction action context) =
        (.ok (), after)) :
    editor.runAction action context =
      if after.mode = .insert ∧ !after.insertGroupOpen then
        { after with insertGroupOpen := true }
      else
        after.commitGroup := by
  unfold runAction
  rw [ended]

/-- A tidy command in a group of its own, if it is refused, leaves the text as it was. -/
theorem rollbackGroup_of_refused
    {fixedMode : Prop}
    {description : String}
    {command : CommandM Unit}
    {error : EditError}
    {after : Editor}
    (tidy : command.Tidy fixedMode (editor.beginGroup description))
    (ended : (editor.beginGroup description).attempt command = (.error error, after)) :
    after.rollbackGroup.buffer = editor.buffer := by
  show after.buffer.rollbackGroup = editor.buffer
  rw [tidy.untouched ended]
  exact Buffer.rollbackGroup_beginGroup editor.buffer description

/-- Whatever an action does, the session is kept until it is settled. -/
theorem runAction_keepsSession
    (editor : Editor)
    (action : Action)
    (context : CommandContext) :
    editor.KeepsSession ((Commands.runAction action context).runOn editor).2 := by
  by_cases isUndo : action = .undo
  · subst isUndo
    obtain ⟨after, ended, keeps, _⟩ :=
      Commands.replay_runOn Buffer.undo "Already at oldest change" context.count editor
    rw [← Commands.undo_eq_replay] at ended
    rw [show Commands.runAction .undo context = Commands.undo context.count from rfl, ended]
    exact keeps
  · by_cases isRedo : action = .redo
    · subst isRedo
      obtain ⟨after, ended, keeps, _⟩ :=
        Commands.replay_runOn Buffer.redo "Already at newest change" context.count editor
      rw [← Commands.redo_eq_replay] at ended
      rw [show Commands.runAction .redo context = Commands.redo context.count from rfl,
        ended]
      exact keeps
    · exact (Commands.runAction_tidy isUndo isRedo context).works.toKeepsSession

/-- An action changes neither grammar nor highlighting, nor the known grammars. -/
theorem runAction_looks
    (editor : Editor)
    (action : Action)
    (context : CommandContext) :
    (editor.runAction action context).grammar = editor.grammar ∧
      (editor.runAction action context).highlight = editor.highlight ∧
        (editor.runAction action context).grammars = editor.grammars := by
  have keeps := runAction_keepsSession (editor.beginGroup action.name) action context
  unfold runAction
  split
  · rename_i after ended
    rw [show (Commands.runAction action context).runOn _ = _ from ended] at keeps
    split
    · exact ⟨keeps.grammar, keeps.highlight, keeps.grammars⟩
    · exact ⟨keeps.grammar, keeps.highlight, keeps.grammars⟩
  · rename_i after ended
    rw [show (Commands.runAction action context).runOn _ = _ from ended] at keeps
    exact ⟨keeps.grammar, keeps.highlight, keeps.grammars⟩

/-- An action other than undo and redo is one step, or begins to insert. -/
theorem runAction_cases
    {action : Action}
    (notUndo : action ≠ .undo)
    (notRedo : action ≠ .redo)
    (context : CommandContext) :
    editor.StepsTo (editor.runAction action context) ∨
      editor.BeginsInsert (editor.runAction action context) := by
  have tidy :
      (Commands.runAction action context).Tidy False (editor.beginGroup action.name) :=
    Commands.runAction_tidy notUndo notRedo context
  unfold runAction
  split
  · rename_i after ended
    have works := tidy.works
    rw [show (Commands.runAction action context).runOn _ = _ from ended] at works
    split
    -- The command has ended in insert mode and leaves its group to what is typed.
    · rename_i inserts
      right
      exact
        { grammar := works.grammar
          grammars := works.grammars
          highlight := works.highlight
          wasClosed := by
            have closed := inserts.2
            rw [Bool.not_eq_true', works.insertGroupOpen] at closed
            exact closed
          isOpen := rfl
          mode := inserts.1
          performs := ⟨action.name, works.performs⟩ }
    · rename_i stays
      left
      exact
        { grammar := works.grammar
          grammars := works.grammars
          highlight := works.highlight
          insertGroupOpen := works.insertGroupOpen
          steps := .accepted action.name works.performs
          typing := by
            intro typing
            right
            have isOpen : after.insertGroupOpen = true := by
              cases closed : after.insertGroupOpen with
              | true =>
                  rfl
              | false =>
                  exact absurd ⟨typing, by rw [closed]; rfl⟩ stays
            rw [works.insertGroupOpen] at isOpen
            exact isOpen }
  · rename_i error after ended
    have works := tidy.works
    rw [show (Commands.runAction action context).runOn _ = _ from ended] at works
    left
    refine StepsTo.of_same ?_ ?_ rfl
    · exact ⟨works.grammar, works.highlight, works.insertGroupOpen, works.grammars⟩
    · exact rollbackGroup_of_refused tidy ended

/-- A command in a group of its own that keeps the mode is one step. -/
theorem stepsTo_of_command
    {description : String}
    {command : CommandM Unit}
    {after : Editor}
    (tidy : command.Tidy True (editor.beginGroup description))
    (told : EditError → String)
    (outcome :
      after =
        match (editor.beginGroup description).attempt command with
        | (.ok _, after) => after.commitGroup
        | (.error error, after) => after.rollbackGroup.tell (told error)) :
    editor.StepsTo after ∧ after.mode = editor.mode := by
  have works := tidy.works
  subst outcome
  split
  · rename_i performed ended
    rw [show command.runOn _ = _ from ended] at works
    have sameMode : performed.commitGroup.mode = editor.mode := works.mode trivial
    refine ⟨?_, sameMode⟩
    exact
      { grammar := works.grammar
        grammars := works.grammars
        highlight := works.highlight
        insertGroupOpen := works.insertGroupOpen
        steps := .accepted description works.performs
        typing := fun typing => .inl (sameMode ▸ typing) }
  · rename_i error performed ended
    rw [show command.runOn _ = _ from ended] at works
    have sameMode : (performed.rollbackGroup.tell (told error)).mode = editor.mode :=
      works.mode trivial
    refine ⟨StepsTo.of_same ?_ ?_ sameMode, sameMode⟩
    · exact ⟨works.grammar, works.highlight, works.insertGroupOpen, works.grammars⟩
    · exact rollbackGroup_of_refused tidy ended

/-- A submitted line is one step, and the mode stays. -/
theorem runCommandLine_stepsTo
    (editor : Editor)
    (input : List Char) :
    editor.StepsTo (editor.runCommandLine input) ∧
      (editor.runCommandLine input).mode = editor.mode :=
  stepsTo_of_command (Commands.runLine_sure _).tidy
    (fun error => String.ofList input ++ ": " ++ error.message) rfl

/-- A key of insert mode is one step, and the mode stays. -/
theorem runInsertKey_stepsTo
    (editor : Editor)
    (key : Commands.InsertKey) :
    editor.StepsTo (editor.runInsertKey key) ∧
      (editor.runInsertKey key).mode = editor.mode :=
  stepsTo_of_command (Commands.runInsertKey_sureIf key).toTidy EditError.message rfl

/-- Deleting the blanks at the end of the line works. -/
theorem stripTrailingBlanks_tidy : stripTrailingBlanks.Tidy True editor := by
  unfold stripTrailingBlanks
  apply CommandM.Tidy.get_bind
  dsimp only
  split
  · exact (CommandM.Tidy.delete _).followed fun _ _ => .pure ()
  · exact (CommandM.Sure.pure ()).tidy

/-- Deleting the blanks at the end of the line is at most one edit. -/
theorem stripTrailingBlanks_once (editor : Editor) :
    editor.buffer.PerformsOnce (stripTrailingBlanks.runOn editor).2.buffer := by
  unfold stripTrailingBlanks
  rw [CommandM.runOn_get_bind]
  dsimp only
  split
  · rw [CommandM.runOn_bind]
    split
    · rename_i removed after ended
      exact Buffer.performsOnce_of_delete (CommandM.delete_ok ended)
    · rename_i error after ended
      exact .inl ((@CommandM.Tidy.delete True editor _).untouched ended)
  · exact .inl rfl

/-- Ending the group of the insert session ends no other group. -/
theorem closeInsertGroup_parts (editor : Editor) :
    editor.closeInsertGroup.insertGroupOpen = false ∧
      editor.closeInsertGroup.grammar = editor.grammar ∧
        editor.closeInsertGroup.highlight = editor.highlight ∧
          editor.closeInsertGroup.grammars = editor.grammars ∧
            editor.closeInsertGroup.buffer =
              if editor.insertGroupOpen then editor.buffer.commitGroup else editor.buffer := by
  unfold closeInsertGroup
  cases isOpen : editor.insertGroupOpen with
  | true =>
      exact ⟨rfl, rfl, rfl, rfl, rfl⟩
  | false =>
      exact ⟨isOpen, rfl, rfl, rfl, rfl⟩

/-- Leaving a mode ends the insert session; in normal mode nothing is left. -/
theorem escape_cases (editor : Editor) :
    (editor.mode = .normal ∧ editor.StepsTo editor.escape) ∨
      editor.LeavesMode editor.escape := by
  let idle : Editor := { editor with dispatcher := editor.dispatcher.reset }
  unfold escape
  dsimp only
  split
  · rename_i isNormal
    left
    exact ⟨isNormal, .of_same ⟨rfl, rfl, rfl, rfl⟩ rfl rfl⟩
  · rename_i notNormal
    right
    have works : idle.Works True (idle.attempt stripTrailingBlanks).2 :=
      stripTrailingBlanks_tidy.works
    have closed := closeInsertGroup_parts (idle.attempt stripTrailingBlanks).2
    have parts :=
      (idle.attempt stripTrailingBlanks).2.closeInsertGroup.setMode_parts .normal
    have sameOpen :
        (idle.attempt stripTrailingBlanks).2.insertGroupOpen = editor.insertGroupOpen :=
      works.insertGroupOpen
    rw [sameOpen] at closed
    exact
      { grammar := (parts.2.1.trans closed.2.1).trans works.grammar
        grammars := (parts.2.2.2.2.trans closed.2.2.2.1).trans works.grammars
        highlight := (parts.2.2.1.trans closed.2.2.1).trans works.highlight
        notNormal := notNormal
        mode := setMode_mode _ _
        isClosed := parts.2.2.2.1.trans closed.1
        performs :=
          ⟨_, stripTrailingBlanks_once idle, parts.1.trans closed.2.2.2.2⟩ }

/-- An action that replays is never refused, and its group is ended at once. -/
theorem runAction_replays
    {action : Action}
    {context : CommandContext}
    {step : Buffer → Except EditError Nat × Buffer}
    {refusal : String}
    (replaying :
      Commands.runAction action context = Commands.replay step refusal context.count)
    (sessionOpen : editor.mode = .insert → editor.insertGroupOpen = true) :
    editor.Replays step context.count (editor.runAction action context) := by
  obtain ⟨after, ended, keeps, mode, replayed⟩ :=
    Commands.replay_runOn step refusal context.count (editor.beginGroup action.name)
  have outcome : editor.runAction action context = after.commitGroup := by
    unfold runAction
    rw [replaying,
      show (editor.beginGroup action.name).attempt _ = (.ok (), after) from ended]
    dsimp only
    -- Replaying keeps the mode, and in insert mode the group of the session is noted already.
    rw [if_neg]
    rintro ⟨typing, closed⟩
    have isOpen : after.insertGroupOpen = true := by
      rw [keeps.insertGroupOpen]
      exact sessionOpen (mode.symm.trans typing)
    rw [isOpen] at closed
    contradiction
  rw [outcome]
  exact
    { grammar := keeps.grammar
      grammars := keeps.grammars
      highlight := keeps.highlight
      insertGroupOpen := keeps.insertGroupOpen
      mode := mode
      replayed := ⟨action.name, congrArg Buffer.commitGroup replayed⟩ }

/-- An undo takes undo steps. -/
theorem runAction_undo
    (context : CommandContext)
    (sessionOpen : editor.mode = .insert → editor.insertGroupOpen = true) :
    editor.Replays Buffer.undo context.count (editor.runAction .undo context) :=
  runAction_replays (Commands.undo_eq_replay context.count) sessionOpen

/-- A redo takes redo steps. -/
theorem runAction_redo
    (context : CommandContext)
    (sessionOpen : editor.mode = .insert → editor.insertGroupOpen = true) :
    editor.Replays Buffer.redo context.count (editor.runAction .redo context) :=
  runAction_replays (Commands.redo_eq_replay context.count) sessionOpen

/-- An action undoes, or it redoes, takes one step or begins to insert. -/
theorem runAction_outcome
    (sessionOpen : editor.mode = .insert → editor.insertGroupOpen = true)
    (action : Action)
    (context : CommandContext) :
    (action = .undo ∧
        editor.Replays Buffer.undo context.count (editor.runAction action context)) ∨
      (action ≠ .undo ∧
        (editor.Replays Buffer.redo context.count (editor.runAction action context) ∨
          editor.StepsTo (editor.runAction action context) ∨
            editor.BeginsInsert (editor.runAction action context))) := by
  by_cases isUndo : action = .undo
  · left
    subst isUndo
    exact ⟨rfl, runAction_undo context sessionOpen⟩
  · right
    refine ⟨isUndo, ?_⟩
    by_cases isRedo : action = .redo
    · subst isRedo
      exact .inl (runAction_redo context sessionOpen)
    · exact .inr (runAction_cases isUndo isRedo context)

/-- A press on an open command line is one step, and the mode stays. -/
theorem commandLineKey_stepsTo
    (editor : Editor)
    (line : CommandLine)
    (event : KeyEvent) :
    editor.StepsTo (editor.commandLineKey line event).2 ∧
      (editor.commandLineKey line event).2.mode = editor.mode := by
  have same
      (commandLine : Option CommandLine) :
      editor.StepsTo { editor with commandLine } ∧
        { editor with commandLine }.mode = editor.mode :=
    ⟨.of_same ⟨rfl, rfl, rfl, rfl⟩ rfl rfl, rfl⟩
  have submitted :
      editor.StepsTo (editor.closeCommandLine.runCommandLine line.submission) ∧
        (editor.closeCommandLine.runCommandLine line.submission).mode = editor.mode := by
    obtain ⟨steps, mode⟩ :=
      runCommandLine_stepsTo editor.closeCommandLine line.submission
    exact ⟨steps.of_prepared ⟨⟨rfl, rfl, rfl, rfl⟩, rfl, rfl⟩, mode⟩
  unfold commandLineKey
  dsimp only
  split
  · exact same none
  · exact submitted
  · split
    · exact same none
    · exact same (some _)
  · exact same (some _)
  · exact same (some _)
  · exact same (some _)
  · exact same (some _)
  · exact same (some _)
  · split
    · exact same none
    · split
      · exact same (some _)
      · exact same editor.commandLine

/-- What a press does in a mode where chords are read. -/
theorem dispatch_cases
    {event : KeyEvent}
    (free :
      ¬((globalAction? event).isSome ∨ editor.commandLine.isSome ∨
        editor.isEscape event ∨ editor.mode = .insert)) :
    (∃ action context idle,
        editor.actionOf? event = some (action, context) ∧
          editor.Alike idle ∧
            (editor.dispatch event).2 = idle.runAction action context) ∨
      (editor.actionOf? event = none ∧ editor.StepsTo (editor.dispatch event).2) := by
  unfold actionOf? dispatch
  rw [if_neg free]
  cases moved : navigationMotion? event.key with
  | some motion =>
      left
      exact
        ⟨.move motion, {}, { editor with dispatcher := editor.dispatcher.reset }, rfl,
          ⟨⟨rfl, rfl, rfl, rfl⟩, rfl, rfl⟩, rfl⟩
  | none =>
      dsimp only
      cases fed : editor.dispatcher.feed event editor.tables editor.mode with
      | mk result dispatcher =>
          cases result with
          | resolved action context =>
              left
              exact
                ⟨action, context, { editor with dispatcher }, rfl,
                  ⟨⟨rfl, rfl, rfl, rfl⟩, rfl, rfl⟩, rfl⟩
          | pending | leaderArmed | unresolved =>
              right
              exact ⟨rfl, .of_same ⟨rfl, rfl, rfl, rfl⟩ rfl rfl⟩

/-- A press in a mode where chords are read, which is no escape, is dispatched. -/
theorem route_eq_dispatch
    {event : KeyEvent}
    (free :
      ¬((globalAction? event).isSome ∨ editor.commandLine.isSome ∨
        editor.isEscape event ∨ editor.mode = .insert)) :
    editor.route event = editor.dispatch event := by
  simp only [not_or, Bool.not_eq_true, Option.isSome_eq_false_iff,
    Option.isNone_iff_eq_none] at free
  obtain ⟨asked, typed, escapes, notInsert⟩ := free
  unfold route
  rw [asked, typed]
  dsimp only
  rw [escapes, if_neg Bool.false_ne_true, if_neg notInsert]

/--
A press runs an action outside of insert mode; or it is one step that keeps insert mode;
or it leaves a mode.
-/
theorem route_cases
    (editor : Editor)
    (event : KeyEvent) :
    (∃ action context idle,
        editor.actionOf? event = some (action, context) ∧
          editor.mode ≠ .insert ∧
            editor.Alike idle ∧
              (editor.route event).2 = idle.runAction action context) ∨
      (editor.actionOf? event = none ∧
        editor.StepsTo (editor.route event).2 ∧
          (editor.mode = .insert → (editor.route event).2.mode = .insert)) ∨
        (editor.actionOf? event = none ∧ editor.LeavesMode (editor.route event).2) := by
  -- A press runs an action only if none of the special readings of a press applies.
  by_cases free :
      (globalAction? event).isSome ∨ editor.commandLine.isSome ∨
        editor.isEscape event ∨ editor.mode = .insert
  · right
    have noAction : editor.actionOf? event = none := by
      unfold actionOf?
      rw [if_pos free]
    unfold route
    cases asked : globalAction? event with
    | some action =>
        left
        exact ⟨noAction, .of_same ⟨rfl, rfl, rfl, rfl⟩ rfl rfl, fun typing => typing⟩
    | none =>
        cases typed : editor.commandLine with
        | some line =>
            left
            obtain ⟨steps, mode⟩ := commandLineKey_stepsTo editor line event
            exact ⟨noAction, steps, fun typing => mode.trans typing⟩
        | none =>
            dsimp only
            split
            · rcases escape_cases editor with ⟨isNormal, steps⟩ | leaves
              · left
                refine ⟨noAction, steps, fun typing => ?_⟩
                rw [isNormal] at typing
                contradiction
              · right
                exact ⟨noAction, leaves⟩
            · split
              · left
                split
                · rename_i key _
                  obtain ⟨steps, mode⟩ := runInsertKey_stepsTo editor key
                  exact ⟨noAction, steps, fun typing => mode.trans typing⟩
                · exact ⟨noAction, .of_same ⟨rfl, rfl, rfl, rfl⟩ rfl rfl, fun typing => typing⟩
              · simp_all
  · have notInsert : editor.mode ≠ .insert := fun typing => free (by simp [typing])
    rw [route_eq_dispatch free]
    rcases dispatch_cases free with
      ⟨action, context, idle, runs, alike, outcome⟩ | ⟨noAction, steps⟩
    · left
      exact ⟨action, context, idle, runs, notInsert, alike, outcome⟩
    · right
      left
      exact ⟨noAction, steps, fun typing => absurd typing notInsert⟩

/-- The action of a press runs on the editor as it is, but for the pending chord. -/
theorem route_of_action
    {event : KeyEvent}
    {action : Action}
    {context : CommandContext}
    (runs : editor.actionOf? event = some (action, context)) :
    ∃ dispatcher,
      (editor.route event).2 = { editor with dispatcher }.runAction action context := by
  unfold actionOf? at runs
  split at runs
  · contradiction
  · rename_i free
    rw [route_eq_dispatch free]
    unfold dispatch
    cases moved : navigationMotion? event.key with
    | some motion =>
        rw [moved] at runs
        cases runs
        exact ⟨editor.dispatcher.reset, rfl⟩
    | none =>
        rw [moved] at runs
        dsimp only at runs ⊢
        cases fed : editor.dispatcher.feed event editor.tables editor.mode with
        | mk result dispatcher =>
            rw [fed] at runs
            cases result with
            | resolved action context =>
                cases runs
                exact ⟨dispatcher, rfl⟩
            | pending | leaderArmed | unresolved =>
                contradiction

/-- A press without an action, where chords are read, changes nothing but what is pending. -/
theorem route_of_no_action
    {event : KeyEvent}
    (idle : editor.actionOf? event = none)
    (noLine : editor.commandLine = none)
    (noEscape : editor.isEscape event = false)
    (notInsert : editor.mode ≠ .insert) :
    ∃ dispatcher outcome, (editor.route event).2 = { editor with dispatcher, outcome } := by
  by_cases asked : (globalAction? event).isSome = true
  · obtain ⟨action, isAsked⟩ := Option.isSome_iff_exists.mp asked
    unfold route
    rw [isAsked]
    exact ⟨editor.dispatcher, _, rfl⟩
  · have free :
        ¬((globalAction? event).isSome ∨ editor.commandLine.isSome ∨
          editor.isEscape event ∨ editor.mode = .insert) := by
      simp [asked, noLine, noEscape, notInsert]
    unfold actionOf? at idle
    rw [if_neg free] at idle
    rw [route_eq_dispatch free]
    unfold dispatch
    cases moved : navigationMotion? event.key with
    | some motion =>
        rw [moved] at idle
        contradiction
    | none =>
        rw [moved] at idle
        dsimp only at idle ⊢
        cases fed : editor.dispatcher.feed event editor.tables editor.mode with
        | mk result dispatcher =>
            rw [fed] at idle
            cases result with
            | resolved action context =>
                contradiction
            | pending | leaderArmed | unresolved =>
                exact ⟨dispatcher, editor.outcome, rfl⟩

end Editor

namespace Operation

/-- The action that an operation runs, with its context, if it runs one. -/
def actionOn? (operation : Operation) (editor : Editor) : Option (Action × CommandContext) :=
  match operation with
  | .handleKey event => editor.actionOf? event
  | .execute action context => some (action, context)
  | _ => none

theorem actionOn?_execute
    (action : Action)
    (context : CommandContext)
    (editor : Editor) :
    (execute action context).actionOn? editor = some (action, context) :=
  rfl

/-- However an action is asked for, it stops the program if it comes to too large a number. -/
theorem run?_of_action
    {operation : Operation}
    {editor : Editor}
    {action : Action}
    {context : CommandContext}
    (runs : operation.actionOn? editor = some (action, context)) :
    operation.run? editor =
      if Commands.actionOverflows editor context action then
        none
      else
        some (operation.run editor) := by
  cases operation with
  | handleKey event =>
      have isAction : editor.actionOf? event = some (action, context) := runs
      have noInsertKey : editor.insertKeyOf? event = none := by
        unfold Editor.actionOf? at isAction
        unfold Editor.insertKeyOf?
        split at isAction
        · contradiction
        · simp_all
      have sameOverflow :
          editor.keyOverflows event = Commands.actionOverflows editor context action := by
        unfold Editor.keyOverflows
        rw [isAction, noInsertKey]
        simp
      show (editor.handleKey? event).map Prod.snd = _
      unfold Editor.handleKey?
      rw [sameOverflow]
      split <;> rfl
  | execute action context =>
      cases runs
      show (editor.execute? action context).map Prod.snd = _
      unfold Editor.execute?
      split <;> rfl
  | submitCommandLine | loadSource | setGrammar =>
      contradiction

/-- However an action is asked for, it runs and then the event is ended. -/
theorem run_of_action
    {operation : Operation}
    {editor : Editor}
    {action : Action}
    {context : CommandContext}
    (runs : operation.actionOn? editor = some (action, context)) :
    ∃ dispatcher modeBefore handled,
      operation.run editor =
        (({ editor.fresh with dispatcher }.runAction action context).finishEvent
          modeBefore handled).2 := by
  cases operation with
  | handleKey event =>
      have routed : editor.fresh.actionOf? event = some (action, context) := runs
      obtain ⟨dispatcher, after⟩ := Editor.route_of_action routed
      refine ⟨dispatcher, editor.mode, (editor.fresh.route event).1, ?_⟩
      rw [← after]
      rfl
  | execute action context =>
      cases runs
      exact ⟨editor.dispatcher, editor.mode, true, rfl⟩
  | submitCommandLine | loadSource | setGrammar =>
      contradiction

end Operation

end ChordEditor
