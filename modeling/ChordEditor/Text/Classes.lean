import ChordEditor.Text.Table.Classes

namespace ChordEditor.Text

/-!
# Character classes

The classes that motions, commands and patterns ask for.  Within ASCII they are
decided without a table, so that they evaluate on concrete characters.

`isWordChar` and `isPatternWordChar` differ on purpose: motions take letters,
numbers and the underscore for a word, patterns take also marks, connecting
punctuation and joiners but no fractions or superscripts.

Unsigned numbers are read as users type them: decimal digits, with a plus sign allowed in
front, up to the largest value that the reader admits.
-/

/-- Blank characters: the property `White_Space`. -/
def isBlank (c : Char) : Bool :=
  let point := c.toNat
  (9 ≤ point && point ≤ 13) || point == 0x20 || point == 0x85 || point == 0xa0 ||
    point == 0x1680 || (0x2000 ≤ point && point ≤ 0x200a) || point == 0x2028 ||
    point == 0x2029 || point == 0x202f || point == 0x205f || point == 0x3000

/-- Whether a character lies in the ASCII range. -/
def isAscii (c : Char) : Bool :=
  c.toNat < 0x80

/-- Alphabetic characters of every script. -/
def isAlphabetic (c : Char) : Bool :=
  if isAscii c then c.isAlpha else Table.alphabetic.contains c

/-- Digits of every script, letter numbers, fractions and superscripts. -/
def isNumeric (c : Char) : Bool :=
  if isAscii c then c.isDigit else Table.numeric.contains c

/-- Upper-case characters of every script. -/
def isUppercase (c : Char) : Bool :=
  if isAscii c then c.isUpper else Table.uppercase.contains c

/-- Alphabetic or numeric characters. -/
def isAlphanumeric (c : Char) : Bool :=
  isAlphabetic c || isNumeric c

/-- Characters of a word for motions: alphanumeric characters and the underscore. -/
def isWordChar (c : Char) : Bool :=
  isAlphanumeric c || c == '_'

/-- Decimal digits of every script. -/
def isDecimalDigit (c : Char) : Bool :=
  if isAscii c then c.isDigit else Table.decimalDigit.contains c

/-- Punctuation that connects words: the general category `Pc`. -/
def isConnector (c : Char) : Bool :=
  let point := c.toNat
  point == 0x5f || point == 0x203f || point == 0x2040 || point == 0x2054 ||
    point == 0xfe33 || point == 0xfe34 || (0xfe4d ≤ point && point ≤ 0xfe4f) || point == 0xff3f

/-- The characters that join or keep apart their neighbours without being visible. -/
def isJoiner (c : Char) : Bool :=
  c.toNat == 0x200c || c.toNat == 0x200d

/-- Characters of a word for patterns: letters, marks, digits, connectors and joiners. -/
def isPatternWordChar (c : Char) : Bool :=
  if isAscii c then
    c.isAlphanum || c == '_'
  else
    Table.alphabetic.contains c || Table.mark.contains c || Table.decimalDigit.contains c ||
      isConnector c || isJoiner c

/-- The classes between which word motions stop. -/
inductive CharClass where
  | whitespace
  | word
  | punctuation
  deriving Repr, DecidableEq, Inhabited

namespace CharClass

/-- The class of a character. -/
def of (c : Char) : CharClass :=
  if isBlank c then
    .whitespace
  else if isWordChar c then
    .word
  else
    .punctuation

/-- The name of a class. -/
def name : CharClass → String
  | .whitespace => "Whitespace"
  | .word => "Word"
  | .punctuation => "Punctuation"

end CharClass

/-- The value of a decimal ASCII digit. -/
def digitValue? (c : Char) : Option Nat :=
  if c.isDigit then some (c.toNat - '0'.toNat) else none

/-- The largest number of 64 bits, and so the largest machine word. -/
def maxWord64 : Nat := Nat.pow 2 64 - 1

/-- The value of decimal digits, if all characters are digits. -/
def digitsValue? (digits : List Char) : Option Nat :=
  digits.foldlM
    (fun value c => (digitValue? c).map fun digit => value * 10 + digit)
    0

/-- An unsigned number of at most `limit`. -/
def unsigned? (limit : Nat) (text : List Char) : Option Nat :=
  let digits :=
    match text with
    | '+' :: rest => rest
    | _ => text
  if digits.isEmpty then
    none
  else
    (digitsValue? digits).filter (· ≤ limit)

end ChordEditor.Text
