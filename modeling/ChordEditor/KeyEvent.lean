import ChordEditor.Key

namespace ChordEditor

/-!
# Key events

A key event is a key pressed with modifiers at a time.  `typedChar?` is the character
it types: letters take their case from shift and from nothing else.
-/

/-- The modifiers held with a key. -/
structure Modifiers where
  shift : Bool := false
  ctrl : Bool := false
  alt : Bool := false
  deriving Repr, DecidableEq

/-- A key press; the time is in milliseconds. -/
structure KeyEvent where
  key : Key
  modifiers : Modifiers := {}
  time : Nat := 0
  deriving Repr, DecidableEq

namespace KeyEvent

/-- A typed character; upper-case letters hold shift. -/
def ofChar (c : Char) (time : Nat) : KeyEvent :=
  { key := .char c
    modifiers := { shift := Text.isUppercase c }
    time }

/-- The character that the press types, if it types one. -/
def typedChar? (event : KeyEvent) : Option Char :=
  if event.modifiers.ctrl || event.modifiers.alt then
    none
  else
    match event.key with
    | .char c =>
        if Text.isAlphabetic c then
          some (if event.modifiers.shift then Text.upperChar c else Text.lowerChar c)
        else
          some c
    | _ => none

/-- Whether the press is a character with control held, without regard to case. -/
def isCtrlChar (event : KeyEvent) (c : Char) : Bool :=
  match event.key with
  | .char pressed => event.modifiers.ctrl && pressed.toLower == c.toLower
  | _ => false

/-- The name of a key between angle brackets, with the modifiers held. -/
def bracketed (event : KeyEvent) : String :=
  let ctrl := if event.modifiers.ctrl then "C-" else ""
  let alt := if event.modifiers.alt then "A-" else ""
  let shift :=
    match event.key with
    | .char _ | .backTab => ""
    | _ => if event.modifiers.shift then "S-" else ""
  let name :=
    match event.key with
    | .char '<' => "lt"
    | key => key.name
  "<" ++ ctrl ++ alt ++ shift ++ name ++ ">"

/-- The event in key notation. -/
def render (event : KeyEvent) : String :=
  match event.key with
  | .char c =>
      if event.modifiers.ctrl || event.modifiers.alt || c == ' ' || c == '<' then
        event.bracketed
      else
        String.singleton (event.typedChar?.getD c)
  | _ => event.bracketed

end KeyEvent

end ChordEditor
