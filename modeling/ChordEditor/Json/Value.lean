import ChordEditor.Decimal.Shortest

namespace ChordEditor

/-!
# JSON values

Values of the data format, and their text.  The members of an object stand in the
order of their keys, each key once.
-/

/-- A value of the data format. -/
inductive JsonValue where
  | null
  | bool (value : Bool)
  | integer (value : Int)
  | decimal (value : Decimal)
  | string (text : String)
  | array (items : List JsonValue)
  | object (members : List (String × JsonValue))
  deriving Repr, Inhabited

namespace JsonValue

/-- Put a member among others that stand in the order of their keys. -/
def insertMember
    (key : String)
    (value : JsonValue) : List (String × JsonValue) → List (String × JsonValue)
  | [] => [(key, value)]
  | (other, otherValue) :: rest =>
      if key < other then
        (key, value) :: (other, otherValue) :: rest
      else if key = other then
        (key, value) :: rest
      else
        (other, otherValue) :: insertMember key value rest

/-- Four hexadecimal digits. -/
def fourHex (value : Nat) : List Char :=
  let shown := Nat.toDigits 16 value
  List.replicate (4 - shown.length) '0' ++ shown

/-- What stands for a character inside a quoted text. -/
def escapedChar (c : Char) : List Char :=
  match c with
  | '"' => ['\\', '"']
  | '\\' => ['\\', '\\']
  | '\x08' => ['\\', 'b']
  | '\x0c' => ['\\', 'f']
  | '\n' => ['\\', 'n']
  | '\r' => ['\\', 'r']
  | '\t' => ['\\', 't']
  | _ => if c.toNat < 0x20 then '\\' :: 'u' :: fourHex c.toNat else [c]

/-- A text in quotes. -/
def quoted (text : String) : String :=
  "\"" ++ String.ofList (text.toList.flatMap escapedChar) ++ "\""

mutual

/-- A value as text without any spaces. -/
def compact : JsonValue → String
  | .null => "null"
  | .bool value => if value then "true" else "false"
  | .integer value => toString value
  | .decimal value => value.render
  | .string text => quoted text
  | .array items => "[" ++ ",".intercalate (compactItems items) ++ "]"
  | .object members => "\x7b" ++ ",".intercalate (compactMembers members) ++ "\x7d"

/-- Each item of a list as text. -/
def compactItems : List JsonValue → List String
  | [] => []
  | item :: items => compact item :: compactItems items

/-- Each member of an object as text. -/
def compactMembers : List (String × JsonValue) → List String
  | [] => []
  | (key, value) :: members =>
      (quoted key ++ ":" ++ compact value) :: compactMembers members

end

/-- What stands for a character of a text where only printable ASCII may be written. -/
def asciiChar (c : Char) : List Char :=
  let unit (value : Nat) : List Char := '\\' :: 'u' :: fourHex value
  if c.toNat < 0x7f then
    [c]
  else if c.toNat < 0x10000 then
    unit c.toNat
  else
    let beyond := c.toNat - 0x10000
    unit (0xd800 + beyond / 0x400) ++ unit (0xdc00 + beyond % 0x400)

/-- A value as printable ASCII without any spaces. -/
def ascii (value : JsonValue) : String :=
  String.ofList (value.compact.toList.flatMap asciiChar)

/-- Lines between two brackets, two columns further in; brackets alone if there are none. -/
def block (indent opening closing : String) (lines : List String) : String :=
  if lines.isEmpty then
    opening ++ closing
  else
    opening ++ "\n" ++ ",\n".intercalate lines ++ "\n" ++ indent ++ closing

mutual

/-- A value as text with one item or member a line. -/
def prettyAt (indent : String) : JsonValue → String
  | .array items => block indent "[" "]" (prettyItems (indent ++ "  ") items)
  | .object members =>
      block indent "\x7b" "\x7d" (prettyMembers (indent ++ "  ") members)
  | value => compact value

/-- Each item of a list as an indented line. -/
def prettyItems (indent : String) : List JsonValue → List String
  | [] => []
  | item :: items => (indent ++ prettyAt indent item) :: prettyItems indent items

/-- Each member of an object as an indented line. -/
def prettyMembers (indent : String) : List (String × JsonValue) → List String
  | [] => []
  | (key, value) :: members =>
      (indent ++ quoted key ++ ": " ++ prettyAt indent value) :: prettyMembers indent members

end

/-- A value as text over several lines, indented by two columns a level. -/
def pretty (value : JsonValue) : String :=
  prettyAt "" value

end JsonValue

end ChordEditor
