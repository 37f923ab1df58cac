import ChordEditor.Text.Classes
import ChordEditor.Text.Table.Unprintable

namespace ChordEditor.Text

/-!
# Character literals

A character between single quotes, as it is shown to a reader of key names.  A
character without a visible form of its own is written by its code point.
-/

/-- Whether a character is shown by its code point in a literal. -/
def isUnprintable (c : Char) : Bool :=
  if isAscii c then c.toNat < 0x20 || c.toNat == 0x7f else Table.unprintable.contains c

/-- The digits of a number in base sixteen, in lower case. -/
def hexText (value : Nat) : String :=
  String.ofList (Nat.toDigits 16 value)

/-- What stands for a character between the quotes of a literal. -/
def escapedChar (c : Char) : String :=
  if c = '\x00' then
    "\\0"
  else if c = '\t' then
    "\\t"
  else if c = '\n' then
    "\\n"
  else if c = '\r' then
    "\\r"
  else if c = '\'' then
    "\\'"
  else if c = '\\' then
    "\\\\"
  else if isUnprintable c then
    "\\u\x7b" ++ hexText c.toNat ++ "\x7d"
  else
    String.singleton c

/-- A character between single quotes. -/
def charLiteral (c : Char) : String :=
  "'" ++ escapedChar c ++ "'"

end ChordEditor.Text
