import ChordEditor.KeyEvent

namespace ChordEditor

/-!
# Keys of a terminal

Key events as a terminal reports them, and what they are to the editor.  Releases and
keys that the editor has no name for are nothing to it.
-/

/-- The keys that a terminal reports. -/
inductive TerminalKey where
  | char (c : Char)
  | function (number : Nat)
  | escape
  | enter
  | backspace
  | tab
  | backTab
  | delete
  | home
  | «end»
  | pageUp
  | pageDown
  | up
  | down
  | left
  | right
  | insert
  /-- A key without a meaning in the editor. -/
  | other
  deriving Repr, DecidableEq

/-- What happened to a key. -/
inductive KeyChange where
  | press
  | hold
  | release
  deriving Repr, DecidableEq

namespace TerminalKey

/-- The key that a terminal reports by a name; characters and function keys have none. -/
def ofName (name : String) : TerminalKey :=
  match name with
  | "Esc" => .escape
  | "Enter" => .enter
  | "Backspace" => .backspace
  | "Tab" => .tab
  | "BackTab" => .backTab
  | "Delete" => .delete
  | "Home" => .home
  | "End" => .end
  | "PageUp" => .pageUp
  | "PageDown" => .pageDown
  | "Up" => .up
  | "Down" => .down
  | "Left" => .left
  | "Right" => .right
  | "Insert" => .insert
  | _ => .other

/-- The editor's key, given whether shift is held. -/
def toKey? (shift : Bool) : TerminalKey → Option Key
  | .char c => some (.char c)
  | .function number => some (.function number)
  | .escape => some .escape
  | .enter => some .enter
  | .backspace => some .backspace
  | .tab => some (if shift then .backTab else .tab)
  | .backTab => some .backTab
  | .delete => some .delete
  | .home => some .home
  | .end => some .end
  | .pageUp => some .pageUp
  | .pageDown => some .pageDown
  | .up => some .up
  | .down => some .down
  | .left => some .left
  | .right => some .right
  | .insert => some .insert
  | .other => none

/-- Whether a key is shifted by itself: upper-case letters and the tab that goes back. -/
def isShifted : TerminalKey → Bool
  | .char c => Text.isUppercase c
  | .backTab => true
  | _ => false

/-- The editor's event for a key of a terminal. -/
def toEvent?
    (key : TerminalKey)
    (held : Modifiers)
    (change : KeyChange)
    (time : Nat) : Option KeyEvent :=
  if change = .release then
    none
  else
    (key.toKey? held.shift).map fun pressed =>
      { key := pressed
        modifiers := { held with shift := held.shift || key.isShifted }
        time }

end TerminalKey

end ChordEditor
