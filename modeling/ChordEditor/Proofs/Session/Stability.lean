import ChordEditor.Proofs.Commands.Primitives
import ChordEditor.Proofs.Session.Operations

namespace ChordEditor.Editor

/-!
# What events preserve

Before it is ended an event makes primitive changes, and if it runs an action that is
refused, it takes window, register and mode back.  A property that both preserve is
stable; it is kept by every press, action and submitted line.
-/

/-- Kept by primitive changes, and by having window, register and mode taken back. -/
structure Stable (holds : Editor → Prop) : Prop where
  primitive :
    ∀ before after, before.Primitive after → holds before → holds after
  takenBack :
    ∀ before after,
      holds before → holds after →
        holds
          { after with
            window := before.window
            register := before.register
            mode := before.mode }

namespace Stable

variable
  {holds : Editor → Prop}
  (stable : Stable holds)
  {editor : Editor}

include stable

theorem noted
    {after : Editor}
    (held : holds editor)
    (buffer : after.buffer = editor.buffer)
    (window : after.window = editor.window)
    (mode : after.mode = editor.mode)
    (search : after.search = editor.search)
    (sources : after.source = editor.source ∧ after.cursorMemory = editor.cursorMemory) :
    holds after :=
  stable.primitive editor after (.notes buffer window mode search sources) held

theorem edited
    {buffer : Buffer}
    (held : holds editor)
    (counts : editor.buffer.Counts buffer) :
    holds { editor with buffer } :=
  stable.primitive editor _ (.edits counts) held

theorem attempt
    {command : CommandM Unit}
    (composed : command.Composed)
    (held : holds editor) :
    holds (editor.attempt command).2 :=
  (composed editor).preserves stable.primitive held

/-- A command in a group of its own, which is taken back if it is refused. -/
theorem ofCommand
    {command : CommandM Unit}
    (composed : command.Composed)
    (description : String)
    (told : EditError → String)
    (held : holds editor) :
    holds
      (match (editor.beginGroup description).attempt command with
      | (.ok _, after) => after.commitGroup
      | (.error error, after) => after.rollbackGroup.tell (told error)) := by
  have begun : holds (editor.beginGroup description) :=
    stable.edited held (.setHistory _ _)
  have ran := stable.attempt composed begun
  split
  · rename_i after ended
    rw [ended] at ran
    exact stable.edited ran (.setHistory _ _)
  · rename_i error after ended
    rw [ended] at ran
    have takenBack : holds after.rollbackGroup :=
      stable.edited ran (.rollbackGroup _)
    exact stable.noted takenBack rfl rfl rfl rfl ⟨rfl, rfl⟩

theorem runAction
    (action : Action)
    (context : CommandContext)
    (held : holds editor) :
    holds (editor.runAction action context) := by
  have begun : holds (editor.beginGroup action.name) :=
    stable.edited held (.setHistory _ _)
  have ran := stable.attempt (Commands.runAction_composed action context) begun
  unfold Editor.runAction
  split
  · rename_i after ended
    rw [ended] at ran
    split
    · exact stable.noted ran rfl rfl rfl rfl ⟨rfl, rfl⟩
    · exact stable.edited ran (.setHistory _ _)
  · rename_i error after ended
    rw [ended] at ran
    have rolledBack : holds after.rollbackGroup :=
      stable.edited ran (.rollbackGroup _)
    exact stable.noted (stable.takenBack editor _ held rolledBack) rfl rfl rfl rfl ⟨rfl, rfl⟩

theorem runCommandLine
    (input : List Char)
    (held : holds editor) :
    holds (editor.runCommandLine input) :=
  stable.ofCommand (Commands.runLine_composed _) "command-line"
    (fun error => String.ofList input ++ ": " ++ error.message) held

theorem runInsertKey
    (key : Commands.InsertKey)
    (held : holds editor) :
    holds (editor.runInsertKey key) :=
  stable.ofCommand (Commands.runInsertKey_composed key) "insert" EditError.message held

theorem closeInsertGroup (held : holds editor) : holds editor.closeInsertGroup := by
  unfold Editor.closeInsertGroup
  split
  · have committed : holds editor.commitGroup :=
      stable.edited held (.setHistory _ _)
    exact stable.noted committed rfl rfl rfl rfl ⟨rfl, rfl⟩
  · exact held

theorem escape (held : holds editor) : holds editor.escape := by
  have strips : stripTrailingBlanks.Composed := by
    apply CommandM.Composed.get_bind
    intro editor
    dsimp only
    split
    · exact (CommandM.Composed.delete _).bind fun _ => .pure ()
    · exact .pure ()
  have idle : holds { editor with dispatcher := editor.dispatcher.reset } :=
    stable.noted held rfl rfl rfl rfl ⟨rfl, rfl⟩
  unfold Editor.escape
  dsimp only
  split
  · exact stable.noted idle rfl rfl rfl rfl ⟨rfl, rfl⟩
  · have stripped := stable.attempt strips idle
    exact stable.primitive _ _ (.setsMode .normal) (stable.closeInsertGroup stripped)

theorem commandLineKey
    (line : CommandLine)
    (event : KeyEvent)
    (held : holds editor) :
    holds (editor.commandLineKey line event).2 := by
  have typed (kept : Option CommandLine) : holds { editor with commandLine := kept } :=
    stable.noted held rfl rfl rfl rfl ⟨rfl, rfl⟩
  unfold Editor.commandLineKey
  dsimp only
  split
  · exact typed none
  · exact stable.runCommandLine line.submission (typed none)
  · split
    · exact typed none
    · exact typed (some _)
  · exact typed (some _)
  · exact typed (some _)
  · exact typed (some _)
  · exact typed (some _)
  · exact typed (some _)
  · split
    · exact typed none
    · split
      · exact typed (some _)
      · exact held

theorem dispatch
    (event : KeyEvent)
    (held : holds editor) :
    holds (editor.dispatch event).2 := by
  have fed (dispatcher : Dispatcher) : holds { editor with dispatcher } :=
    stable.noted held rfl rfl rfl rfl ⟨rfl, rfl⟩
  unfold Editor.dispatch
  split
  · dsimp only
    exact stable.runAction _ _ (fed _)
  · split
    · exact fed _
    · exact fed _
    · exact stable.runAction _ _ (fed _)
    · exact fed _

/-- A press keeps what is stable. -/
theorem route
    (event : KeyEvent)
    (held : holds editor) :
    holds (editor.route event).2 := by
  unfold Editor.route
  split
  · exact stable.noted held rfl rfl rfl rfl ⟨rfl, rfl⟩
  · split
    · exact stable.commandLineKey _ event held
    · split
      · exact stable.escape held
      · split
        · split
          · exact stable.runInsertKey _ held
          · exact held
        · exact stable.dispatch event held

section Settled

variable
  {settled : Editor → Prop}
  (kept : ∀ editor, settled editor → holds editor)
  (finished :
    ∀ editor modeBefore handled,
      holds editor → settled (editor.finishEvent modeBefore handled).2)
  (highlighted :
    ∀ (editor : Editor) grammar highlight,
      settled editor → settled { editor with grammar, highlight })

include kept finished highlighted

/-- What ending an event makes of what is stable holds after every operation but a load. -/
theorem run_of_no_load
    {operation : Operation}
    (noLoad : ∀ source text, operation ≠ .loadSource source text)
    (held : settled editor) :
    settled (operation.run editor) := by
  have begun : holds editor.fresh :=
    stable.noted (kept editor held) rfl rfl rfl rfl ⟨rfl, rfl⟩
  cases operation with
  | handleKey event =>
      exact finished _ _ _ (stable.route event begun)
  | execute action context =>
      exact finished _ _ _ (stable.runAction action context begun)
  | submitCommandLine input =>
      have closed : holds editor.fresh.closeCommandLine :=
        stable.noted begun rfl rfl rfl rfl ⟨rfl, rfl⟩
      exact finished _ _ _ (stable.runCommandLine input closed)
  | loadSource source text =>
      exact absurd rfl (noLoad source text)
  | setGrammar name =>
      rw [Operation.run_setGrammar]
      split
      · exact highlighted _ _ _ held
      · exact held

/-- What ending an event makes of what is stable holds after every operation. -/
theorem run
    (loaded : ∀ editor source text, settled editor → settled (editor.loadSource source text))
    (operation : Operation)
    (held : settled editor) :
    settled (operation.run editor) := by
  cases operation with
  | loadSource source text =>
      exact loaded editor source text held
  | handleKey | execute | submitCommandLine | setGrammar =>
      exact stable.run_of_no_load kept finished highlighted nofun held

end Settled

end Stable

end ChordEditor.Editor
