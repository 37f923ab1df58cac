import ChordEditor.Proofs.Commands.Working
import ChordEditor.Proofs.Session.Operations

namespace ChordEditor.Editor

/-!
# Lines submitted on the command line

A line is submitted by the host, or by Enter while a command line is open; both come to
the same.  Its command runs in a group of its own, and if it is accepted, the event ends
with what it has left.
-/

/-- A command is submitted, as a line of its own or by Enter on the command line. -/
inductive Submits (command : LineCommand) (editor : Editor) : EventOutcome × Editor → Prop where
  | line
      {input : List Char}
      (asks : LineCommand.read input = command) :
      Submits command editor (editor.submitCommandLine input)
  | enter
      {typed : CommandLine}
      {event : KeyEvent}
      (isOpen : editor.commandLine = some typed)
      (isEnter : event.key = .enter)
      (notGlobal : globalAction? event = none)
      (asks : LineCommand.read typed.submission = command) :
      Submits command editor (editor.handleKey event)

variable {editor : Editor}

/-- Enter on the command line submits what has been typed. -/
theorem handleKey_enter
    {typed : CommandLine}
    {event : KeyEvent}
    (isOpen : editor.commandLine = some typed)
    (isEnter : event.key = .enter)
    (notGlobal : globalAction? event = none) :
    editor.handleKey event = editor.submitCommandLine typed.submission := by
  have routed :
      editor.fresh.route event =
        (true, editor.fresh.closeCommandLine.runCommandLine typed.submission) := by
    have stillOpen : editor.fresh.commandLine = some typed := isOpen
    unfold route
    rw [notGlobal, stillOpen]
    dsimp only
    unfold commandLineKey
    rw [isEnter]
  have shown :
      editor.handleKey event =
        (editor.fresh.route event).2.finishEvent editor.mode (editor.fresh.route event).1 :=
    rfl
  rw [shown, routed]
  rfl

/-- What is submitted in either way is a line. -/
theorem Submits.exists_line
    {command : LineCommand}
    {ended : EventOutcome × Editor}
    (submits : editor.Submits command ended) :
    ∃ input, LineCommand.read input = command ∧ ended = editor.submitCommandLine input := by
  cases submits with
  | line asks =>
      exact ⟨_, asks, rfl⟩
  | enter isOpen isEnter notGlobal asks =>
      exact ⟨_, asks, handleKey_enter isOpen isEnter notGlobal⟩

/-- The event of a line whose command is accepted ends with what the command has left. -/
theorem submitCommandLine_of_accepted
    {input : List Char}
    {left : Editor}
    (accepted :
      (Commands.runLine (LineCommand.read input)).runOn
          (editor.fresh.closeCommandLine.beginGroup "command-line") =
        (.ok (), left)) :
    editor.submitCommandLine input = left.commitGroup.finishEvent editor.mode true := by
  have ran : editor.fresh.closeCommandLine.runCommandLine input = left.commitGroup := by
    unfold runCommandLine attempt
    rw [show (Commands.runLine (LineCommand.read input)).run.run _ = _ from accepted]
  rw [← ran]
  rfl

/-- Ending an event leaves the message. -/
theorem finishEvent_message
    (editor : Editor)
    (modeBefore : Mode)
    (handled : Bool) :
    (editor.finishEvent modeBefore handled).1.message = editor.outcome.message := by
  have searched (shown : Editor) : shown.refreshSearch.outcome = shown.outcome := by
    unfold refreshSearch
    split <;> rfl
  have highlighted (shown : Editor) :
      shown.refreshHighlight.outcome.message = shown.outcome.message := by
    unfold refreshHighlight
    split <;> rfl
  unfold finishEvent settle
  dsimp only
  rw [searched, highlighted]

end ChordEditor.Editor
