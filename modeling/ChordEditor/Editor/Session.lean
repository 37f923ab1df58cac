import ChordEditor.Commands.Insert
import ChordEditor.Commands.Line
import ChordEditor.Commands.Run

namespace ChordEditor.Editor

/-!
# Sessions

Starting a session, loading texts, and handling events.  Every command runs in an edit
group of its own.  One that is refused is taken back as a whole; one that ends in
insert mode leaves its group open for what is typed, until insert mode is left.
-/

/-- Swap in another text; the register and the search term are kept. -/
def replaceDocument (editor : Editor) (text : List Char) : Editor :=
  let buffer := Buffer.ofText text
  { editor with
    buffer
    window := Window.ofHeight editor.window.height
    mode := .normal
    insertGroupOpen := false
    commandLine := none
    dispatcher := editor.dispatcher.reset
    jumps := editor.jumps.clear
    search := editor.search.refresh buffer
    highlight := (HighlightCache.rebuild editor.grammar buffer).2 }

/-- Start a session with a text. -/
def start
    (config : Config)
    (grammars : GrammarRegistry)
    (text : List Char) : Except GrammarError Editor := do
  let grammar ← grammars.get config.settings.grammar
  let editor : Editor :=
    { window := Window.ofHeight config.settings.viewHeight
      settings := EditorSettings.ofSettings config.settings
      grammar
      dispatcher := { settings := config.settings.dispatcher }
      tables := config.tables
      grammars }
  return editor.replaceDocument text

/-- Change over to the grammar with a name. -/
def setGrammar (editor : Editor) (name : String) : Except GrammarError Editor := do
  let grammar ← editor.grammars.get name
  let highlight := (HighlightCache.rebuild grammar editor.buffer).2
  return { editor with grammar, highlight }

/-- Put the cursor where it was when a source was left. -/
def recallCursor (editor : Editor) (source : String) : Editor :=
  match editor.cursorMemory.placeIn? source with
  | some place =>
      let arrived := editor.setCursor place
      { arrived with window := arrived.window.centerOnCursor arrived.buffer }
  | none => editor

/-- Remember where the cursor is in the loaded source. -/
def rememberCursor (editor : Editor) : Editor :=
  match editor.source with
  | some source =>
      { editor with
        cursorMemory := editor.cursorMemory.remember source editor.position }
  | none => editor

/-- Load a source, remembering where the cursor was in the one before. -/
def loadSource (editor : Editor) (source : String) (text : List Char) : Editor :=
  { ((editor.rememberCursor.replaceDocument text).recallCursor source) with
    source := some source }

/-- The highlighted spans of a line. -/
def highlightLine (editor : Editor) (line : Nat) : List Paint :=
  Highlight.lineSpans editor.grammar (editor.buffer.lineText line)
    (editor.highlight.stateBefore line)

/-- The construct open at the end of a line. -/
def lineState (editor : Editor) (line : Nat) : CarryState :=
  editor.highlight.stateAfter line

/-- Run a command and tell apart whether it was refused. -/
def attempt (editor : Editor) (command : CommandM Unit) : Except EditError Unit × Editor :=
  command.run.run editor

/-- Begin an edit group. -/
def beginGroup (editor : Editor) (description : String) : Editor :=
  { editor with buffer := editor.buffer.beginGroup description }

/-- End the innermost edit group. -/
def commitGroup (editor : Editor) : Editor :=
  { editor with buffer := editor.buffer.commitGroup }

/-- Take back all edits of the innermost group. -/
def rollbackGroup (editor : Editor) : Editor :=
  { editor with buffer := editor.buffer.rollbackGroup }

/-- Run an action as one step; if it is refused, all is as it was before. -/
def runAction (editor : Editor) (action : Action) (context : CommandContext) : Editor :=
  match (editor.beginGroup action.name).attempt (Commands.runAction action context) with
  | (.ok _, after) =>
      if after.mode = .insert ∧ !after.insertGroupOpen then
        { after with insertGroupOpen := true }
      else
        after.commitGroup
  | (.error error, after) =>
      { after.rollbackGroup with
        window := editor.window
        register := editor.register
        mode := editor.mode }.tell (action.name ++ ": " ++ error.message)

/-- Run a submitted line as one step. -/
def runCommandLine (editor : Editor) (input : List Char) : Editor :=
  match (editor.beginGroup "command-line").attempt
      (Commands.runLine (LineCommand.read input)) with
  | (.ok _, after) => after.commitGroup
  | (.error error, after) =>
      after.rollbackGroup.tell (String.ofList input ++ ": " ++ error.message)

/-- Run a key of insert mode as one step inside the insert session. -/
def runInsertKey (editor : Editor) (key : Commands.InsertKey) : Editor :=
  match (editor.beginGroup "insert").attempt (Commands.runInsertKey key) with
  | (.ok _, after) => after.commitGroup
  | (.error error, after) => after.rollbackGroup.tell error.message

/-- Delete the blanks at the end of the cursor's line. -/
def stripTrailingBlanks : CommandM Unit := do
  let editor ← get
  let line := editor.currentLine
  let text := editor.buffer.lineText line
  let kept := (Text.trimEnd text).length
  if kept < text.length then
    let start := editor.buffer.lineStart line
    let _ ← CommandM.delete ⟨start + kept, start + text.length⟩

/-- End the edit group of an insert session. -/
def closeInsertGroup (editor : Editor) : Editor :=
  if editor.insertGroupOpen then
    { editor.commitGroup with insertGroupOpen := false }
  else
    editor

/-- Leave the mode for normal mode; in normal mode, ask the host to leave editing. -/
def escape (editor : Editor) : Editor :=
  let editor := { editor with dispatcher := editor.dispatcher.reset }
  if editor.mode = .normal then
    editor.request .exitContext
  else
    ((editor.attempt stripTrailingBlanks).2.closeInsertGroup).setMode .normal

/-- The request that a press stands for in every mode. -/
def globalAction? (event : KeyEvent) : Option HostAction :=
  let held := event.modifiers
  match event.key with
  | .enter => if held.ctrl then some .executeCurrent else none
  | .backspace => if held.ctrl then some .clearOutput else none
  | .char c =>
      if (c = 'm' ∨ c = 'M') ∧ held.ctrl ∧ !held.alt then
        some .executeCurrent
      else if held.alt ∧ !held.ctrl then
        (Text.digitValue? c).bind fun digit =>
          if 1 ≤ digit then some (.switchPage digit) else none
      else
        none
  | _ => none

/-- The motion of a key that belongs to no chord. -/
def navigationMotion? : Key → Option Motion
  | .left => some .left
  | .right => some .right
  | .up => some .up
  | .down => some .down
  | .home => some .lineStart
  | .end => some .lineEnd
  | .pageDown => some .jumpDown
  | .pageUp => some .jumpUp
  | _ => none

/-- Handle a press by a motion or a chord. -/
def dispatch (editor : Editor) (event : KeyEvent) : Bool × Editor :=
  match navigationMotion? event.key with
  | some motion =>
      let idle := { editor with dispatcher := editor.dispatcher.reset }
      (true, idle.runAction (.move motion) {})
  | none =>
      match editor.dispatcher.feed event editor.tables editor.mode with
      | (.pending, dispatcher) | (.leaderArmed, dispatcher) =>
          (true, { editor with dispatcher })
      | (.resolved action context, dispatcher) =>
          (true, { editor with dispatcher }.runAction action context)
      | (.unresolved, dispatcher) => (false, { editor with dispatcher })

/-- Close the command line. -/
def closeCommandLine (editor : Editor) : Editor :=
  { editor with commandLine := none }

/-- Handle a press while a command line is open. -/
def commandLineKey (editor : Editor) (line : CommandLine) (event : KeyEvent) : Bool × Editor :=
  let keep (line : CommandLine) : Bool × Editor :=
    (true, { editor with commandLine := some line })
  match event.key with
  | .escape => (true, editor.closeCommandLine)
  | .enter => (true, editor.closeCommandLine.runCommandLine line.submission)
  | .backspace =>
      if line.isLeftByBackspace then (true, editor.closeCommandLine) else keep line.backspace
  | .delete => keep line.delete
  | .left => keep line.moveLeft
  | .right => keep line.moveRight
  | .home => keep line.moveHome
  | .end => keep line.moveEnd
  | _ =>
      if event.isCtrlChar '[' then
        (true, editor.closeCommandLine)
      else
        match event.typedChar? with
        | some c => keep (line.insert c)
        | none => (false, editor)

/-- Whether a press leaves the mode. -/
def isEscape (editor : Editor) (event : KeyEvent) : Bool :=
  event.key == .escape || (editor.mode != .normal && event.isCtrlChar '[')

/-- Handle a press; says whether it meant something. -/
def route (editor : Editor) (event : KeyEvent) : Bool × Editor :=
  match globalAction? event with
  | some action => (true, editor.request action)
  | none =>
      match editor.commandLine with
      | some line => editor.commandLineKey line event
      | none =>
          if editor.isEscape event then
            (true, editor.escape)
          else if editor.mode = .insert then
            match Commands.InsertKey.ofEvent? event with
            | some key => (true, editor.runInsertKey key)
            | none => (false, editor)
          else
            editor.dispatch event

/-- Highlight anew what the event has touched. -/
def refreshHighlight (editor : Editor) : Editor :=
  match editor.buffer.takeDirty with
  | (some dirty, buffer) =>
      let (lines, highlight) := editor.highlight.update editor.grammar buffer dirty
      { editor with
        buffer
        highlight
        outcome :=
          { editor.outcome with changedLines := some lines, bufferChanged := true } }
  | (none, _) => editor

/-- Find the matches of the search anew if the text has changed. -/
def refreshSearch (editor : Editor) : Editor :=
  if editor.search.isStale editor.buffer then
    { editor with search := editor.search.refresh editor.buffer }
  else
    editor

/-- Bring cursor, view, highlighting and search in line with the text. -/
def settle (editor : Editor) : Editor :=
  let valid := { editor with window := editor.window.clampCursor editor.buffer }
  let shown := { valid with window := valid.window.showCursor valid.buffer }
  shown.refreshHighlight.refreshSearch

/-- End the handling of an event and give what it did. -/
def finishEvent (editor : Editor) (modeBefore : Mode) (handled : Bool) : EventOutcome × Editor :=
  let settled := editor.settle
  let outcome :=
    { settled.outcome with
      handled
      modeChanged := if settled.mode = modeBefore then none else some settled.mode }
  (outcome, { settled with outcome := {} })

/-- Handle a key press. -/
def handleKey (editor : Editor) (event : KeyEvent) : EventOutcome × Editor :=
  let (handled, routed) := { editor with outcome := {} }.route event
  routed.finishEvent editor.mode handled

/-- Run a line as if it had been typed behind a colon. -/
def submitCommandLine (editor : Editor) (input : List Char) : EventOutcome × Editor :=
  ({ editor with outcome := {} }.closeCommandLine.runCommandLine input).finishEvent
    editor.mode true

/-- Run an action without a chord. -/
def execute
    (editor : Editor)
    (action : Action)
    (context : CommandContext) : EventOutcome × Editor :=
  ({ editor with outcome := {} }.runAction action context).finishEvent editor.mode true

end ChordEditor.Editor
