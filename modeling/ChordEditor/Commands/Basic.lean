import ChordEditor.Editor.State

namespace ChordEditor

/-!
# Commands

A command changes an editor and may be refused by the buffer on the way.  It then ends
where it is: what it did before stays in the state, for the caller to take back.
-/

/-- A change of an editor that may be refused. -/
abbrev CommandM := ExceptT EditError (StateM Editor)

namespace CommandM

/-- Change the editor. -/
def change (step : Editor → Editor) : CommandM Unit :=
  modify step

/-- Put the cursor at a place and drop the selection. -/
def setCursor (place : Nat) : CommandM Unit :=
  change (·.setCursor place)

/-- Change the mode. -/
def setMode (mode : Mode) : CommandM Unit :=
  change (·.setMode mode)

/-- Leave a message. -/
def tell (message : String) : CommandM Unit :=
  change (·.tell message)

/-- Ask the host for something. -/
def request (action : HostAction) : CommandM Unit :=
  change (·.request action)

/-- Overwrite the register. -/
def store (text : List Char) (linewise : Bool) : CommandM Unit :=
  change fun editor => { editor with register := ⟨text, linewise⟩ }

/-- Change the window, looking at the buffer. -/
def changeWindow (step : Window → Buffer → Window) : CommandM Unit :=
  change fun editor => { editor with window := step editor.window editor.buffer }

/-- Make a change of the buffer that may be refused. -/
def edit (step : Buffer → Except EditError (α × Buffer)) : CommandM α := do
  let editor ← get
  match step editor.buffer with
  | .ok (result, buffer) =>
      set { editor with buffer }
      return result
  | .error error => throw error

/-- Insert a text. -/
def insert (place : Nat) (piece : List Char) : CommandM Unit :=
  edit fun buffer => (buffer.insert place piece).map fun changed => ((), changed)

/-- Delete a span and give its text back. -/
def delete (span : Span) : CommandM (List Char) :=
  edit fun buffer => buffer.delete span.start span.stop

/-- Put a text in place of a span. -/
def replace (span : Span) (piece : List Char) : CommandM Unit :=
  edit fun buffer =>
    (buffer.replace span.start span.stop piece).map fun changed => ((), changed.2)

/-- Run a command for each line from the first to the last. -/
def forLines (lines : LineRange) (body : Nat → CommandM Unit) : CommandM Unit :=
  (List.range' lines.first (lines.last + 1 - lines.first)).forM body

end CommandM

end ChordEditor
