import ChordEditor.Commands.Overflow
import ChordEditor.Editor.Session

namespace ChordEditor.Editor

/-!
# Sessions in machine words

An event has no outcome if its command comes to a number that is no machine word, for
that stops the program.  Any other event does what it does with numbers of any size.
-/

/-- The action that a press runs, with its context, if it runs one. -/
def actionOf? (editor : Editor) (event : KeyEvent) : Option (Action × CommandContext) :=
  if (globalAction? event).isSome ∨ editor.commandLine.isSome ∨
      editor.isEscape event ∨ editor.mode = .insert then
    none
  else
    match navigationMotion? event.key with
    | some motion => some (.move motion, {})
    | none =>
        match (editor.dispatcher.feed event editor.tables editor.mode).1 with
        | .resolved action context => some (action, context)
        | _ => none

/-- The key of insert mode that a press is, if it is one. -/
def insertKeyOf? (editor : Editor) (event : KeyEvent) : Option Commands.InsertKey :=
  if (globalAction? event).isSome ∨ editor.commandLine.isSome ∨
      editor.isEscape event ∨ editor.mode ≠ .insert then
    none
  else
    Commands.InsertKey.ofEvent? event

/-- Whether the command of a press comes to a number that is no machine word. -/
def keyOverflows (editor : Editor) (event : KeyEvent) : Bool :=
  let actionOverflows :=
    (editor.actionOf? event).any fun (action, context) =>
      Commands.actionOverflows editor context action
  let typingOverflows :=
    (editor.insertKeyOf? event).any fun key => Commands.insertKeyOverflows editor key
  actionOverflows || typingOverflows

/-- Handle a press in machine words. -/
def handleKey? (editor : Editor) (event : KeyEvent) : Option (EventOutcome × Editor) :=
  if editor.keyOverflows event then none else some (editor.handleKey event)

/-- Run an action without a chord, in machine words. -/
def execute?
    (editor : Editor)
    (action : Action)
    (context : CommandContext) : Option (EventOutcome × Editor) :=
  if Commands.actionOverflows editor context action then
    none
  else
    some (editor.execute action context)

end ChordEditor.Editor
