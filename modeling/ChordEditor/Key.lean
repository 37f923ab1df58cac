import ChordEditor.Text.Case
import ChordEditor.Text.CharLiteral
import ChordEditor.Text.Classes

namespace ChordEditor

/-!
# Keys

The keys of a keyboard and their names.  A name is read without regard to case, and
a single character names its own key.
-/

/-- A key, without the modifiers held with it. -/
inductive Key where
  /-- A key that types a character; letters may arrive in either case. -/
  | char (c : Char)
  | function (number : Nat)
  | escape
  | enter
  | backspace
  | tab
  | backTab
  | delete
  | home
  | «end»
  | pageUp
  | pageDown
  | up
  | down
  | left
  | right
  | insert
  deriving Repr, DecidableEq

/-- Why a key name or a chord cannot be read. -/
inductive KeyError where
  | unknownKey (name : String)
  | emptyChord
  | tooLong (chord : String)
  deriving Repr, DecidableEq

namespace KeyError

/-- The wording of an error. -/
def message : KeyError → String
  | .unknownKey name => "unknown key '" ++ name ++ "'"
  | .emptyChord => "empty chord"
  | .tooLong chord => "chord '" ++ chord ++ "' is longer than five keys"

end KeyError

namespace Key

/-- The name of a key in key notation. -/
def name : Key → String
  | .char c => if c = ' ' then "Space" else String.singleton c
  | .function number => "F" ++ toString number
  | .escape => "Esc"
  | .enter => "CR"
  | .backspace => "BS"
  | .tab => "Tab"
  | .backTab => "S-Tab"
  | .delete => "Del"
  | .home => "Home"
  | .end => "End"
  | .pageUp => "PageUp"
  | .pageDown => "PageDown"
  | .up => "Up"
  | .down => "Down"
  | .left => "Left"
  | .right => "Right"
  | .insert => "Insert"

/-- What kind of key it is, with its character or number. -/
def description : Key → String
  | .char c => "Char(" ++ Text.charLiteral c ++ ")"
  | .function number => "F(" ++ toString number ++ ")"
  | .escape => "Esc"
  | .enter => "Enter"
  | .backspace => "Backspace"
  | .tab => "Tab"
  | .backTab => "BackTab"
  | .delete => "Delete"
  | .home => "Home"
  | .end => "End"
  | .pageUp => "PageUp"
  | .pageDown => "PageDown"
  | .up => "Up"
  | .down => "Down"
  | .left => "Left"
  | .right => "Right"
  | .insert => "Insert"

/-- The names that are read without regard to case, in upper case, with their keys. -/
def named : List (String × Key) :=
  [ ("ESC", .escape), ("ESCAPE", .escape),
    ("CR", .enter), ("ENTER", .enter), ("RETURN", .enter), ("RET", .enter),
    ("BS", .backspace), ("BACKSPACE", .backspace),
    ("TAB", .tab),
    ("DEL", .delete), ("DELETE", .delete),
    ("HOME", .home),
    ("END", .end),
    ("PAGEUP", .pageUp), ("PGUP", .pageUp),
    ("PAGEDOWN", .pageDown), ("PGDN", .pageDown),
    ("UP", .up),
    ("DOWN", .down),
    ("LEFT", .left),
    ("RIGHT", .right),
    ("INSERT", .insert), ("INS", .insert),
    ("SPACE", .char ' '),
    ("LT", .char '<'),
    ("GT", .char '>'),
    ("BAR", .char '|'),
    ("MINUS", .char '-'),
    ("PLUS", .char '+') ]

/-- The function keys are numbered from one to this. -/
def functionKeyCount : Nat := 24

/-- The function key named by an `F` in either case and a number. -/
def functionKey? (name : List Char) : Option Key :=
  match name with
  | [] => none
  | c :: digits =>
      if c.toUpper = 'F' then
        match Text.unsigned? 255 digits with
        | some number =>
            if 1 ≤ number ∧ number ≤ functionKeyCount then some (.function number) else none
        | none => none
      else
        none

/-- The key with a name; a single character keeps its case. -/
def ofName (name : List Char) : Except KeyError Key :=
  match named.lookup (String.ofList (Text.asciiUpper name)) with
  | some key => .ok key
  | none =>
      match functionKey? name with
      | some key => .ok key
      | none =>
          match name with
          | [c] => .ok (.char c)
          | _ => .error (.unknownKey (String.ofList name))

end Key

end ChordEditor
