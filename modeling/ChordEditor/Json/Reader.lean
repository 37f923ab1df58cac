import ChordEditor.Json.Number
import ChordEditor.Text.CodePointTable

namespace ChordEditor

/-!
# Reading JSON

Reading goes in two steps.  `JsonToken.tokens?` cuts the text into tokens, and
`JsonReader` builds the value with a stack of the arrays and objects that are open.  A
text with anything wrong in it has no value.
-/

/-- The pieces that a written value consists of. -/
inductive JsonToken where
  | openArray
  | closeArray
  | openObject
  | closeObject
  | comma
  | colon
  /-- A value that is no array and no object. -/
  | leaf (value : JsonValue)
  deriving Repr, Inhabited

namespace JsonToken

/-- Whether a character may stand between tokens. -/
def isSpace (c : Char) : Bool :=
  c == ' ' || c == '\n' || c == '\t' || c == '\r'

/-- Whether a character can belong to a number. -/
def isNumberChar (c : Char) : Bool :=
  c.isDigit || c == '-' || c == '+' || c == '.' || c == 'e' || c == 'E'

/-- The value of a hexadecimal digit in either case. -/
def hexDigit? (c : Char) : Option Nat :=
  Text.hexDigit? c.toLower

/-- The value of four hexadecimal digits. -/
def hexUnit? (a b c d : Char) : Option Nat := do
  let a ← hexDigit? a
  let b ← hexDigit? b
  let c ← hexDigit? c
  let d ← hexDigit? d
  return ((a * 16 + b) * 16 + c) * 16 + d

/-- Whether a unit is the first half of a pair. -/
def isHighHalf (code : Nat) : Bool :=
  0xd800 ≤ code && code < 0xdc00

/-- Whether a unit is the second half of a pair. -/
def isLowHalf (code : Nat) : Bool :=
  0xdc00 ≤ code && code < 0xe000

/-- The character that two halves make up. -/
def pairChar (high low : Nat) : Char :=
  Char.ofNat (0x10000 + (high - 0xd800) * 0x400 + (low - 0xdc00))

/-- The character that a letter behind a backslash stands for. -/
def escaped? : Char → Option Char
  | '"' => some '"'
  | '\\' => some '\\'
  | '/' => some '/'
  | 'b' => some '\x08'
  | 'f' => some '\x0c'
  | 'n' => some '\n'
  | 'r' => some '\r'
  | 't' => some '\t'
  | _ => none

/-- A text up to the quote that ends it, and what follows the quote. -/
def quotedText? : List Char → Option (List Char × List Char)
  | [] => none
  | '"' :: rest => some ([], rest)
  | '\\' :: 'u' :: a :: b :: c :: d :: '\\' :: 'u' :: e :: f :: g :: h :: rest => do
      let first ← hexUnit? a b c d
      if isHighHalf first then
        let second ← hexUnit? e f g h
        if isLowHalf second then
          let (text, behind) ← quotedText? rest
          return (pairChar first second :: text, behind)
        else
          none
      else if isLowHalf first then
        none
      else
        let (text, behind) ← quotedText? ('\\' :: 'u' :: e :: f :: g :: h :: rest)
        return (Char.ofNat first :: text, behind)
  | '\\' :: 'u' :: a :: b :: c :: d :: rest => do
      let code ← hexUnit? a b c d
      if isHighHalf code || isLowHalf code then
        none
      else
        let (text, behind) ← quotedText? rest
        return (Char.ofNat code :: text, behind)
  | '\\' :: c :: rest => do
      let c ← escaped? c
      let (text, behind) ← quotedText? rest
      return (c :: text, behind)
  | c :: rest =>
      if c = '\\' ∨ c.toNat < 0x20 then
        none
      else do
        let (text, behind) ← quotedText? rest
        return (c :: text, behind)

/-- The words that are values. -/
def words : List (List Char × JsonValue) :=
  [ ("true".toList, .bool true),
    ("false".toList, .bool false),
    ("null".toList, .null) ]

/-- The word at the start of a text with its value, and what follows it. -/
def word? (text : List Char) : Option (JsonValue × List Char) :=
  (words.find? fun word => word.1.isPrefixOf text).map fun word =>
    (word.2, text.drop word.1.length)

/-- The token at the start of a text, and what follows it. -/
def next? (text : List Char) : Option (JsonToken × List Char) :=
  match text with
  | [] => none
  | '[' :: rest => some (.openArray, rest)
  | ']' :: rest => some (.closeArray, rest)
  | '\x7b' :: rest => some (.openObject, rest)
  | '\x7d' :: rest => some (.closeObject, rest)
  | ',' :: rest => some (.comma, rest)
  | ':' :: rest => some (.colon, rest)
  | '"' :: rest =>
      (quotedText? rest).map fun (quoted, behind) =>
        (.leaf (.string (String.ofList quoted)), behind)
  | _ =>
      match text.takeWhile isNumberChar with
      | [] => (word? text).map fun (value, behind) => (.leaf value, behind)
      | number => do
          let parts ← JsonNumberText.cut? number
          let value ← parts.value?
          return (.leaf value, text.dropWhile isNumberChar)

/-- The tokens of a text, `fuel` at most. -/
def tokensWithin? : Nat → List Char → Option (List JsonToken)
  | 0, _ => none
  | fuel + 1, text =>
      match text.dropWhile isSpace with
      | [] => some []
      | c :: rest => do
          let (token, behind) ← next? (c :: rest)
          let tokens ← tokensWithin? fuel behind
          return token :: tokens

/-- The tokens of a text. -/
def tokens? (text : List Char) : Option (List JsonToken) :=
  tokensWithin? (text.length + 1) text

end JsonToken

/-- An array or an object that is open while a value is read. -/
inductive JsonFrame where
  /-- The items so far, the last one first. -/
  | array (items : List JsonValue)
  /-- The members so far, and the key whose value is being read. -/
  | object (members : List (String × JsonValue)) (key : String)
  deriving Inhabited

/-- What may come next. -/
inductive JsonExpected where
  | value
  /-- The first item of an array, or its end. -/
  | itemOrEnd
  /-- The first key of an object, or its end. -/
  | keyOrEnd
  | key
  | colon
  /-- A comma, or the end of what is open. -/
  | commaOrEnd
  deriving Repr, DecidableEq

/-- What has been read of a value. -/
structure JsonReader where
  expected : JsonExpected := .value
  /-- The arrays and objects that are open, the innermost first. -/
  frames : List JsonFrame := []
  /-- The whole value, once it has been read. -/
  result : Option JsonValue := none

namespace JsonReader

/-- The depth to which arrays and objects must not nest. -/
def depthLimit : Nat := 128

/-- Put a finished value where it belongs. -/
def place (reader : JsonReader) (value : JsonValue) : JsonReader :=
  match reader.frames with
  | [] => { reader with expected := .commaOrEnd, result := some value }
  | .array items :: outer =>
      { reader with expected := .commaOrEnd, frames := .array (value :: items) :: outer }
  | .object members key :: outer =>
      { reader with
        expected := .commaOrEnd
        frames := .object (JsonValue.insertMember key value members) key :: outer }

/-- Open an array or an object. -/
def enter? (reader : JsonReader) (frame : JsonFrame) (expected : JsonExpected) :
    Option JsonReader :=
  if reader.frames.length + 1 < depthLimit then
    some { reader with expected, frames := frame :: reader.frames }
  else
    none

/-- Close the innermost array. -/
def closeArray? (reader : JsonReader) : Option JsonReader :=
  match reader.frames with
  | .array items :: outer =>
      some ({ reader with frames := outer }.place (.array items.reverse))
  | _ => none

/-- Close the innermost object. -/
def closeObject? (reader : JsonReader) : Option JsonReader :=
  match reader.frames with
  | .object members _ :: outer => some ({ reader with frames := outer }.place (.object members))
  | _ => none

/-- Go on behind a comma. -/
def comma? (reader : JsonReader) : Option JsonReader :=
  match reader.frames with
  | .array _ :: _ => some { reader with expected := .value }
  | .object _ _ :: _ => some { reader with expected := .key }
  | [] => none

/-- Take the key of a member. -/
def key? (reader : JsonReader) (value : JsonValue) : Option JsonReader :=
  match reader.frames, value with
  | .object members _ :: outer, .string key =>
      some { reader with expected := .colon, frames := .object members key :: outer }
  | _, _ => none

/-- Take one more token. -/
def take? (reader : JsonReader) (token : JsonToken) : Option JsonReader :=
  match reader.expected, token with
  | .value, .leaf value | .itemOrEnd, .leaf value => some (reader.place value)
  | .value, .openArray | .itemOrEnd, .openArray => reader.enter? (.array []) .itemOrEnd
  | .value, .openObject | .itemOrEnd, .openObject => reader.enter? (.object [] "") .keyOrEnd
  | .itemOrEnd, .closeArray | .commaOrEnd, .closeArray => reader.closeArray?
  | .keyOrEnd, .closeObject | .commaOrEnd, .closeObject => reader.closeObject?
  | .key, .leaf value | .keyOrEnd, .leaf value => reader.key? value
  | .colon, .colon => some { reader with expected := .value }
  | .commaOrEnd, .comma => reader.comma?
  | _, _ => none

end JsonReader

namespace JsonValue

/-- Read a written value. -/
def read? (text : List Char) : Option JsonValue := do
  let tokens ← JsonToken.tokens? text
  let reader ← tokens.foldlM JsonReader.take? {}
  if reader.frames.isEmpty then reader.result else none

end JsonValue

end ChordEditor
