import ChordEditor.Commands.Basic
import ChordEditor.Proofs.Buffer.Arrivals
import ChordEditor.Proofs.Buffer.Ranges

namespace ChordEditor

/-!
# How commands end

A command works on an editor when it changes the text by new edits alone and leaves
the grammar, the highlighting and the note of an open insert session as they are.  It
is tidy when it works and, if it is refused, has not edited anything; it is sure when
it works and is not refused.  Many commands are tidy whatever the editor, and sure if
the cursor is where it should be: these are sure under a condition.

Each primitive is shown to be tidy or sure once, and the rules for sequences carry
this over to commands: after the first edit all that follows has to be sure.
-/

namespace Editor

/-- What no command of a session changes. -/
structure KeepsSession (before after : Editor) : Prop where
  grammar : after.grammar = before.grammar
  highlight : after.highlight = before.highlight
  insertGroupOpen : after.insertGroupOpen = before.insertGroupOpen
  grammars : after.grammars = before.grammars

/-- The text is changed by new edits alone; the mode stays if it is fixed. -/
structure Works
    (fixedMode : Prop)
    (before after : Editor) : Prop extends KeepsSession before after where
  performs : before.buffer.Performs after.buffer
  mode : fixedMode → after.mode = before.mode

namespace Works

variable {fixedMode : Prop} {first second third : Editor}

theorem refl (editor : Editor) : editor.Works fixedMode editor :=
  { grammar := rfl
    highlight := rfl
    insertGroupOpen := rfl
    grammars := rfl
    performs := .nothing
    mode := fun _ => rfl }

theorem trans
    (earlier : first.Works fixedMode second)
    (later : second.Works fixedMode third) :
    first.Works fixedMode third :=
  { grammar := later.grammar.trans earlier.grammar
    highlight := later.highlight.trans earlier.highlight
    insertGroupOpen := later.insertGroupOpen.trans earlier.insertGroupOpen
    grammars := later.grammars.trans earlier.grammars
    performs := earlier.performs.trans later.performs
    mode := fun isFixed => (later.mode isFixed).trans (earlier.mode isFixed) }

end Works

/-- Changing the mode changes nothing of the text and the session. -/
theorem setMode_parts
    (editor : Editor)
    (mode : Mode) :
    (editor.setMode mode).buffer = editor.buffer ∧
      (editor.setMode mode).grammar = editor.grammar ∧
        (editor.setMode mode).highlight = editor.highlight ∧
          (editor.setMode mode).insertGroupOpen = editor.insertGroupOpen ∧
            (editor.setMode mode).grammars = editor.grammars := by
  unfold setMode
  split
  · exact ⟨rfl, rfl, rfl, rfl, rfl⟩
  · split <;> exact ⟨rfl, rfl, rfl, rfl, rfl⟩

/-- After the mode is changed it is the wanted one. -/
@[simp]
theorem setMode_mode
    (editor : Editor)
    (mode : Mode) :
    (editor.setMode mode).mode = mode := by
  unfold setMode
  split
  · rename_i same
    exact same.symm
  · split <;> rfl

/-- Whether both ends of the selection lie within the text. -/
structure CursorInText (editor : Editor) : Prop where
  position : editor.position ≤ editor.buffer.length
  anchor : editor.window.cursor.anchor ≤ editor.buffer.length

end Editor

namespace CommandM

/-- What a command gives, and the editor that it leaves. -/
def runOn
    (command : CommandM α)
    (editor : Editor) : Except EditError α × Editor :=
  command.run.run editor

/-- A command in a sequence runs where the one before it has ended. -/
theorem runOn_bind
    (command : CommandM α)
    (next : α → CommandM β)
    (editor : Editor) :
    (command >>= next).runOn editor =
      match command.runOn editor with
      | (.ok result, after) => (next result).runOn after
      | (.error error, after) => (.error error, after) := by
  simp only [runOn, ExceptT.run_bind, StateT.run_bind]
  cases command.run.run editor with
  | mk result after =>
      cases result <;> rfl

/-- A sequence ends where its first part is refused. -/
theorem runOn_bind_of_error
    {command : CommandM α}
    {next : α → CommandM β}
    {editor after : Editor}
    {error : EditError}
    (ended : command.runOn editor = (.error error, after)) :
    (command >>= next).runOn editor = (.error error, after) := by
  rw [runOn_bind, ended]

/-- A command that looks at the editor runs on it. -/
theorem runOn_get_bind
    (next : Editor → CommandM β)
    (editor : Editor) :
    ((get : CommandM Editor) >>= next).runOn editor = (next editor).runOn editor :=
  rfl

/-- A mapped result comes from a result. -/
theorem ok_of_map
    {result : Except EditError α}
    {step : α → β}
    {value : β}
    (mapped : result.map step = .ok value) :
    ∃ source, result = .ok source ∧ step source = value := by
  cases result with
  | error error =>
      cases mapped
  | ok source =>
      cases mapped
      exact ⟨source, rfl, rfl⟩

/-- A change of the buffer leaves the editor alone if it is refused. -/
theorem runOn_edit
    (step : Buffer → Except EditError (α × Buffer))
    (editor : Editor) :
    (edit step).runOn editor =
      match step editor.buffer with
      | .ok (result, buffer) => (.ok result, { editor with buffer })
      | .error error => (.error error, editor) := by
  unfold edit
  rw [runOn_get_bind]
  cases step editor.buffer <;> rfl

/-- A replacement that the buffer accepts is made. -/
theorem runOn_replace
    {editor : Editor}
    {span : Span}
    {piece removed : List Char}
    {changed : Buffer}
    (accepted : editor.buffer.replace span.start span.stop piece = .ok (removed, changed)) :
    (replace span piece).runOn editor = (.ok (), { editor with buffer := changed }) := by
  unfold replace
  rw [runOn_edit, accepted]
  rfl

/-- The command works, and is not refused after it has edited anything. -/
structure Tidy
    (fixedMode : Prop)
    (command : CommandM α)
    (editor : Editor) : Prop where
  works : editor.Works fixedMode (command.runOn editor).2
  refused_untouched :
    ∀ error,
      (command.runOn editor).1 = .error error →
        (command.runOn editor).2.buffer = editor.buffer

/-- The command works and is not refused. -/
structure Sure
    (fixedMode : Prop)
    (command : CommandM α)
    (editor : Editor) : Prop where
  works : editor.Works fixedMode (command.runOn editor).2
  accepted : ∃ result, (command.runOn editor).1 = .ok result

variable {fixedMode : Prop} {editor : Editor} {command : CommandM α} {next : α → CommandM β}

namespace Sure

/-- What is not refused is tidy. -/
theorem tidy (sure : command.Sure fixedMode editor) : command.Tidy fixedMode editor := by
  refine ⟨sure.works, ?_⟩
  intro error refused
  obtain ⟨result, accepted⟩ := sure.accepted
  rw [accepted] at refused
  contradiction

theorem pure (result : α) : (pure result : CommandM α).Sure fixedMode editor :=
  ⟨.refl editor, result, rfl⟩

theorem get_bind
    {next : Editor → CommandM β}
    (sure : (next editor).Sure fixedMode editor) :
    ((get : CommandM Editor) >>= next).Sure fixedMode editor :=
  ⟨sure.works, sure.accepted⟩

/-- A sequence is sure if its parts are. -/
theorem bind
    (sure : command.Sure fixedMode editor)
    (nextSure :
      ∀ result after,
        command.runOn editor = (.ok result, after) →
          (next result).Sure fixedMode after) :
    (command >>= next).Sure fixedMode editor := by
  obtain ⟨result, accepted⟩ := sure.accepted
  have ended : command.runOn editor = (.ok result, (command.runOn editor).2) :=
    Prod.ext accepted rfl
  have rest := nextSure result _ ended
  have together : (command >>= next).runOn editor =
      (next result).runOn (command.runOn editor).2 := by
    rw [runOn_bind, ended]
  constructor
  · rw [together]
    exact sure.works.trans rest.works
  · rw [together]
    exact rest.accepted

theorem followed
    (sure : command.Sure fixedMode editor)
    (nextSure : ∀ result after, (next result).Sure fixedMode after) :
    (command >>= next).Sure fixedMode editor :=
  sure.bind fun result after _ => nextSure result after

/-- Going through a list is sure if each turn is. -/
theorem forM
    {items : List α}
    {body : α → CommandM Unit}
    (bodySure : ∀ item after, (body item).Sure fixedMode after) :
    (items.forM body).Sure fixedMode editor := by
  induction items generalizing editor with
  | nil =>
      exact .pure ()
  | cons item items inductionHypothesis =>
      exact (bodySure item editor).followed fun _ _ => inductionHypothesis

/-- A change that leaves text, mode and session alone is sure. -/
theorem change
    {step : Editor → Editor}
    (sameSession : editor.KeepsSession (step editor))
    (sameBuffer : (step editor).buffer = editor.buffer)
    (sameMode : fixedMode → (step editor).mode = editor.mode) :
    (CommandM.change step).Sure fixedMode editor := by
  refine ⟨{ sameSession with performs := ?_, mode := sameMode }, (), rfl⟩
  show editor.buffer.Performs (step editor).buffer
  rw [sameBuffer]
  exact .nothing

theorem setCursor (place : Nat) : (CommandM.setCursor place).Sure fixedMode editor :=
  .change ⟨rfl, rfl, rfl, rfl⟩ rfl fun _ => rfl

theorem tell (message : String) : (CommandM.tell message).Sure fixedMode editor :=
  .change ⟨rfl, rfl, rfl, rfl⟩ rfl fun _ => rfl

theorem request (action : HostAction) : (CommandM.request action).Sure fixedMode editor :=
  .change ⟨rfl, rfl, rfl, rfl⟩ rfl fun _ => rfl

theorem store
    (text : List Char)
    (linewise : Bool) :
    (CommandM.store text linewise).Sure fixedMode editor :=
  .change ⟨rfl, rfl, rfl, rfl⟩ rfl fun _ => rfl

theorem setMode (mode : Mode) : (CommandM.setMode mode).Sure False editor := by
  have parts := editor.setMode_parts mode
  exact .change ⟨parts.2.1, parts.2.2.1, parts.2.2.2.1, parts.2.2.2.2⟩ parts.1 False.elim

end Sure

namespace Tidy

/-- A tidy command that was refused has left the buffer as it was. -/
theorem untouched
    {error : EditError}
    {after : Editor}
    (tidy : command.Tidy fixedMode editor)
    (ended : command.runOn editor = (.error error, after)) :
    after.buffer = editor.buffer := by
  have kept := tidy.refused_untouched error (by rw [ended])
  rw [ended] at kept
  exact kept

theorem get_bind
    {next : Editor → CommandM β}
    (tidy : (next editor).Tidy fixedMode editor) :
    ((get : CommandM Editor) >>= next).Tidy fixedMode editor :=
  ⟨tidy.works, tidy.refused_untouched⟩

/-- A sequence is tidy if its first part is and the rest is sure. -/
theorem bind
    (tidy : command.Tidy fixedMode editor)
    (nextSure :
      ∀ result after,
        command.runOn editor = (.ok result, after) →
          (next result).Sure fixedMode after) :
    (command >>= next).Tidy fixedMode editor := by
  cases ended : command.runOn editor with
  | mk result after =>
      cases result with
      | ok result =>
          have sure : command.Sure fixedMode editor :=
            ⟨tidy.works, result, by rw [ended]⟩
          exact (sure.bind nextSure).tidy
      -- The rest is not run, so nothing has been edited.
      | error error =>
          have together : (command >>= next).runOn editor = (.error error, after) :=
            runOn_bind_of_error ended
          have works := tidy.works
          have untouched := tidy.refused_untouched error (by rw [ended])
          rw [ended] at works untouched
          constructor
          · rw [together]
            exact works
          · intro _ _
            rw [together]
            exact untouched

theorem followed
    (tidy : command.Tidy fixedMode editor)
    (nextSure : ∀ result after, (next result).Sure fixedMode after) :
    (command >>= next).Tidy fixedMode editor :=
  tidy.bind fun result after _ => nextSure result after

/-- A change of the buffer that may be refused is tidy. -/
theorem edit
    {step : Buffer → Except EditError (α × Buffer)}
    (performs :
      ∀ result buffer,
        step editor.buffer = .ok (result, buffer) → editor.buffer.Performs buffer) :
    (CommandM.edit step).Tidy fixedMode editor := by
  cases stepped : step editor.buffer with
  | error error =>
      have ended : (CommandM.edit step).runOn editor = (.error error, editor) := by
        rw [runOn_edit, stepped]
      constructor
      · rw [ended]
        exact .refl editor
      · intro _ _
        rw [ended]
  | ok changed =>
      obtain ⟨result, buffer⟩ := changed
      have ended :
          (CommandM.edit step).runOn editor = (.ok result, { editor with buffer }) := by
        rw [runOn_edit, stepped]
      constructor
      · rw [ended]
        exact
          { grammar := rfl
            highlight := rfl
            insertGroupOpen := rfl
            grammars := rfl
            performs := performs result buffer stepped
            mode := fun _ => rfl }
      · intro error refused
        rw [ended] at refused
        contradiction

theorem insert
    (place : Nat)
    (piece : List Char) :
    (CommandM.insert place piece).Tidy fixedMode editor := by
  apply Tidy.edit
  intro result buffer accepted
  obtain ⟨changed, inserted, shape⟩ := ok_of_map accepted
  cases shape
  exact Buffer.performs_of_insert inserted

theorem delete (span : Span) : (CommandM.delete span).Tidy fixedMode editor :=
  .edit fun _ _ accepted => Buffer.performs_of_delete accepted

theorem replace
    (span : Span)
    (piece : List Char) :
    (CommandM.replace span piece).Tidy fixedMode editor := by
  apply Tidy.edit
  intro result buffer accepted
  obtain ⟨⟨removed, changed⟩, replaced, shape⟩ := ok_of_map accepted
  cases shape
  exact Buffer.performs_of_replace replaced

end Tidy

namespace Sure

/-- A tidy change of the buffer that is accepted is sure. -/
theorem edit
    {step : Buffer → Except EditError (α × Buffer)}
    (tidy : (CommandM.edit step).Tidy fixedMode editor)
    (accepted : ∃ changed, step editor.buffer = .ok changed) :
    (CommandM.edit step).Sure fixedMode editor := by
  obtain ⟨⟨result, buffer⟩, stepped⟩ := accepted
  refine ⟨tidy.works, result, ?_⟩
  rw [runOn_edit, stepped]

theorem insert
    {place : Nat}
    (inRange : place ≤ editor.buffer.length)
    (piece : List Char) :
    (CommandM.insert place piece).Sure fixedMode editor := by
  obtain ⟨changed, inserted⟩ := Buffer.insert_accepted_iff.mpr inRange
  exact .edit (.insert place piece) ⟨((), changed), by rw [inserted]; rfl⟩

theorem delete
    {span : Span}
    (isRange : span.IsRangeOf editor.buffer) :
    (CommandM.delete span).Sure fixedMode editor :=
  .edit (.delete span) (Buffer.delete_accepted_iff.mpr ⟨isRange.ordered, isRange.inText⟩)

theorem replace
    {span : Span}
    (isRange : span.IsRangeOf editor.buffer)
    (piece : List Char) :
    (CommandM.replace span piece).Sure fixedMode editor := by
  have accepted : ∃ result,
      editor.buffer.replace span.start span.stop piece = .ok result :=
    Buffer.replace_accepted_iff.mpr ⟨isRange.ordered, isRange.inText⟩
  obtain ⟨⟨removed, changed⟩, replaced⟩ := accepted
  exact .edit (.replace span piece) ⟨((), changed), by rw [replaced]; rfl⟩

end Sure

/-- The command is tidy, and under a condition it is sure. -/
structure SureIf
    (condition fixedMode : Prop)
    (command : CommandM α)
    (editor : Editor) : Prop extends Tidy fixedMode command editor where
  sure : condition → command.Sure fixedMode editor

namespace SureIf

variable {condition : Prop}

theorem of_sure
    (sure : command.Sure fixedMode editor) :
    command.SureIf condition fixedMode editor :=
  { sure.tidy with sure := fun _ => sure }

theorem under
    {stronger : Prop}
    (sureIf : command.SureIf condition fixedMode editor)
    (implies : stronger → condition) :
    command.SureIf stronger fixedMode editor :=
  { sureIf with sure := fun met => sureIf.sure (implies met) }

theorem get_bind
    {next : Editor → CommandM β}
    (sureIf : (next editor).SureIf condition fixedMode editor) :
    ((get : CommandM Editor) >>= next).SureIf condition fixedMode editor :=
  { Tidy.get_bind sureIf.toTidy with sure := fun met => .get_bind (sureIf.sure met) }

/-- A sequence is sure under the condition of its first part if the rest is sure. -/
theorem bind
    (sureIf : command.SureIf condition fixedMode editor)
    (nextSure :
      ∀ result after,
        command.runOn editor = (.ok result, after) →
          (next result).Sure fixedMode after) :
    (command >>= next).SureIf condition fixedMode editor :=
  { sureIf.toTidy.bind nextSure with sure := fun met => (sureIf.sure met).bind nextSure }

theorem followed
    (sureIf : command.SureIf condition fixedMode editor)
    (nextSure : ∀ result after, (next result).Sure fixedMode after) :
    (command >>= next).SureIf condition fixedMode editor :=
  sureIf.bind fun result after _ => nextSure result after

theorem insert
    {place : Nat}
    (inRange : condition → place ≤ editor.buffer.length)
    (piece : List Char) :
    (CommandM.insert place piece).SureIf condition fixedMode editor :=
  { Tidy.insert place piece with sure := fun met => .insert (inRange met) piece }

theorem delete
    {span : Span}
    (isRange : condition → span.IsRangeOf editor.buffer) :
    (CommandM.delete span).SureIf condition fixedMode editor :=
  { Tidy.delete span with sure := fun met => .delete (isRange met) }

theorem replace
    {span : Span}
    (isRange : condition → span.IsRangeOf editor.buffer)
    (piece : List Char) :
    (CommandM.replace span piece).SureIf condition fixedMode editor :=
  { Tidy.replace span piece with sure := fun met => .replace (isRange met) piece }

end SureIf

section Ended

variable {after : Editor}

/-- A change that has not been refused has been made to the buffer. -/
theorem edit_ok
    {step : Buffer → Except EditError (α × Buffer)}
    {result : α}
    (ended : (edit step).runOn editor = (.ok result, after)) :
    step editor.buffer = .ok (result, after.buffer) := by
  rw [runOn_edit] at ended
  cases stepped : step editor.buffer with
  | error error =>
      rw [stepped] at ended
      cases ended
  | ok changed =>
      rw [stepped] at ended
      cases ended
      rfl

theorem insert_ok
    {place : Nat}
    {piece : List Char}
    {result : Unit}
    (ended : (CommandM.insert place piece).runOn editor = (.ok result, after)) :
    editor.buffer.insert place piece = .ok after.buffer := by
  obtain ⟨changed, inserted, shape⟩ := ok_of_map (edit_ok ended)
  cases shape
  exact inserted

theorem delete_ok
    {span : Span}
    {removed : List Char}
    (ended : (CommandM.delete span).runOn editor = (.ok removed, after)) :
    editor.buffer.delete span.start span.stop = .ok (removed, after.buffer) :=
  edit_ok ended

theorem replace_ok
    {span : Span}
    {piece : List Char}
    {result : Unit}
    (ended : (CommandM.replace span piece).runOn editor = (.ok result, after)) :
    ∃ removed,
      editor.buffer.replace span.start span.stop piece = .ok (removed, after.buffer) := by
  obtain ⟨⟨removed, changed⟩, replaced, shape⟩ := ok_of_map (edit_ok ended)
  cases shape
  exact ⟨removed, replaced⟩

end Ended

end CommandM

end ChordEditor
