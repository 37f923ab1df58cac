import ChordEditor.Buffer.Change
import ChordEditor.CommandLine
import ChordEditor.CursorMemory
import ChordEditor.Grammar.Registry
import ChordEditor.Highlight.Cache
import ChordEditor.JumpList
import ChordEditor.Search
import ChordEditor.Settings.Config
import ChordEditor.Window

namespace ChordEditor

/-!
# The state of a session

An editor holds one text at a time with all that belongs to editing it, and what the
event being handled has done so far.
-/

/-- The text yanked or deleted last, and whether it consists of whole lines. -/
structure Register where
  text : List Char := []
  linewise : Bool := false
  deriving Repr, DecidableEq

namespace Register

/-- Whether the register holds no text. -/
def isEmpty (register : Register) : Bool :=
  register.text.isEmpty

end Register

/-- Requests that the host has to carry out. -/
inductive HostAction where
  | save
  /-- Leave editing. -/
  | exitContext
  /-- Show a page, counted from one. -/
  | switchPage (page : Nat)
  | nextPage
  | previousPage
  | newPage
  | closePage
  | closeOtherPages
  | executeCurrent
  | clearOutput
  | zoomIn
  | zoomOut
  /-- Show the user a line, counted from one, that is wrong. -/
  | reportLineError (line : Nat)
  deriving Repr, DecidableEq

namespace HostAction

/-- The name of a request, with its argument. -/
def name : HostAction → String
  | .save => "Save"
  | .exitContext => "ExitContext"
  | .switchPage page => "SwitchPage(" ++ toString page ++ ")"
  | .nextPage => "NextPage"
  | .previousPage => "PreviousPage"
  | .newPage => "NewPage"
  | .closePage => "ClosePage"
  | .closeOtherPages => "CloseOtherPages"
  | .executeCurrent => "ExecuteCurrent"
  | .clearOutput => "ClearOutput"
  | .zoomIn => "ZoomIn"
  | .zoomOut => "ZoomOut"
  | .reportLineError line => "ReportLineError(" ++ toString line ++ ")"

end HostAction

/-- What one event did. -/
structure EventOutcome where
  /-- Whether the event meant something. -/
  handled : Bool := false
  /-- The new mode, if the event changed it. -/
  modeChanged : Option Mode := none
  hostActions : List HostAction := []
  /-- Lines whose highlighting has to be drawn again. -/
  changedLines : Option LineRange := none
  message : Option String := none
  bufferChanged : Bool := false
  deriving Repr, DecidableEq

/-- The numbers that commands work with; none of them is zero. -/
structure EditorSettings where
  /--
  Columns of a tab, and spaces of an indentation unit.  It is taken to be so small that
  what it makes of the indentation of a line is a machine word.
  -/
  tabWidth : Nat := 4
  jumpLines : Nat := 10
  scrollLines : Nat := 1
  deriving Repr, DecidableEq

namespace EditorSettings

/-- The numbers that a configuration gives. -/
def ofSettings (settings : Settings) : EditorSettings :=
  { tabWidth := max settings.tabWidth 1
    jumpLines := max settings.jumpLines 1
    scrollLines := max settings.scrollLines 1 }

/-- One unit of indentation. -/
def indentUnit (settings : EditorSettings) : List Char :=
  List.replicate settings.tabWidth ' '

end EditorSettings

/-- An editing session. -/
structure Editor where
  buffer : Buffer := {}
  window : Window
  /-- Kept when another text is loaded. -/
  register : Register := {}
  mode : Mode := .normal
  settings : EditorSettings
  search : SearchState := {}
  jumps : JumpList := {}
  /-- The line being typed, if one is open. -/
  commandLine : Option CommandLine := none
  grammar : Grammar
  /-- What the event being handled has done so far. -/
  outcome : EventOutcome := {}
  dispatcher : Dispatcher
  tables : KeyTables
  grammars : GrammarRegistry
  highlight : HighlightCache := {}
  cursorMemory : CursorMemory := {}
  /-- The name of the loaded source, if it has one. -/
  source : Option String := none
  /-- Whether the edit group of an insert session is open. -/
  insertGroupOpen : Bool := false

namespace Editor

/-- The place of the cursor. -/
def position (editor : Editor) : Nat :=
  editor.window.cursor.position

/-- The line of the cursor. -/
def currentLine (editor : Editor) : Nat :=
  editor.buffer.lineOf editor.position

/-- Ask the host for something. -/
def request (editor : Editor) (action : HostAction) : Editor :=
  { editor with
    outcome :=
      { editor.outcome with hostActions := editor.outcome.hostActions ++ [action] } }

/-- Leave a message, in place of an earlier one. -/
def tell (editor : Editor) (message : String) : Editor :=
  { editor with outcome := { editor.outcome with message := some message } }

/-- Put the cursor at a place and drop the selection. -/
def setCursor (editor : Editor) (place : Nat) : Editor :=
  { editor with window := editor.window.setCursor editor.buffer place }

/-- Change the mode; the selection is dropped unless both modes are visual. -/
def setMode (editor : Editor) (mode : Mode) : Editor :=
  if mode = editor.mode then
    editor
  else if mode.isVisual ∧ editor.mode.isVisual then
    { editor with mode }
  else
    { editor with
      mode
      window := { editor.window with cursor := editor.window.cursor.collapse } }

/-- What the visual selection covers. -/
inductive Selection where
  | lines (first last : Nat)
  | chars (span : Span)
  deriving Repr, DecidableEq

/--
What the visual selection covers: whole lines in line mode, else characters, and the
character at the cursor when nothing is selected.
-/
def selection (editor : Editor) : Selection :=
  let cursor := editor.window.cursor
  if editor.mode = .visualLine then
    .lines (editor.buffer.lineOf cursor.start) (editor.buffer.lineOf cursor.stop)
  else if cursor.hasSelection then
    .chars ⟨cursor.start, cursor.stop⟩
  else
    let lineEnd := editor.buffer.lineEnd (editor.buffer.lineOf cursor.start)
    .chars ⟨cursor.start, min (cursor.start + 1) lineEnd⟩

/-- The lines that the visual selection touches. -/
def selectedLines (editor : Editor) : LineRange :=
  match editor.selection with
  | .lines first last => ⟨first, last⟩
  | .chars span =>
      let lastChar := max (span.stop - 1) span.start
      ⟨editor.buffer.lineOf span.start, editor.buffer.lineOf lastChar⟩

/-- The lines that a command with a count acts on: the selected ones, or `count` lines. -/
def linesActedOn (editor : Editor) (count : Nat) : LineRange :=
  if editor.mode.isVisual then
    editor.selectedLines
  else
    ⟨editor.currentLine, editor.buffer.blockEnd editor.currentLine count⟩

end Editor

end ChordEditor
