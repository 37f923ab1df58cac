import ChordEditor.Definition.Python.Rule
import ChordEditor.Text.Table.Identifier

namespace ChordEditor.Python

/-!
# Words, numbers and text literals

Functions that measure what stands at the start of a text.
-/

/-- Whether a character is looked for in the tables, which begin behind ASCII. -/
def isInTables (c : Char) : Bool :=
  0x80 ≤ c.toNat

/-- Whether a word can begin with a character. -/
def isWordStart (c : Char) : Bool :=
  c.isAlpha || c == '_' || isInTables c && Text.Table.identifierStart.contains c

/-- Whether a character belongs to the word it follows. -/
def isWordRest (c : Char) : Bool :=
  c.isAlphanum || c == '_' || isInTables c && Text.Table.identifierContinue.contains c

/-- The word at the start of a text. -/
def wordAt (text : List Char) : List Char :=
  match text with
  | c :: rest => if isWordStart c then c :: rest.takeWhile isWordRest else []
  | [] => []

/-! ## Numbers -/

/-- The length of a run of digits, each maybe with an underscore behind it. -/
def digitsLength : List Char → Nat
  | c :: '_' :: rest => if c.isDigit then digitsLength rest + 2 else 0
  | c :: rest => if c.isDigit then digitsLength rest + 1 else 0
  | [] => 0

/-- The length of a run of digits of some base, each maybe with an underscore before it. -/
def baseDigitsLength (isDigit : Char → Bool) : List Char → Nat
  | '_' :: c :: rest => if isDigit c then baseDigitsLength isDigit rest + 2 else 0
  | c :: rest => if isDigit c then baseDigitsLength isDigit rest + 1 else 0
  | [] => 0

/-- One, if a text begins with one of some characters. -/
def oneOfLength (choices : List Char) : List Char → Nat
  | c :: _ => if choices.contains c then 1 else 0
  | [] => 0

/-- The length of an exponent. -/
def exponentLength (text : List Char) : Nat :=
  let mark := oneOfLength ['e', 'E'] text
  let sign := oneOfLength ['+', '-'] (text.drop mark)
  let digits := digitsLength (text.drop (mark + sign))
  if mark = 0 ∨ digits = 0 then 0 else mark + sign + digits

/-- The length of a number in a base that is written in front of it. -/
def prefixedLength (isDigit : Char → Bool) (digits : List Char) : Nat :=
  let length := baseDigitsLength isDigit digits
  if length = 0 then 0 else 2 + length + oneOfLength ['l', 'L'] (digits.drop length)

/-- The length of a number in decimal digits. -/
def decimalLength (text : List Char) : Nat :=
  let whole := digitsLength text
  let point := oneOfLength ['.'] (text.drop whole)
  let part := if point = 0 then 0 else digitsLength (text.drop (whole + point))
  if whole = 0 ∧ part = 0 then
    0
  else
    let digits := whole + point + part
    let length := digits + exponentLength (text.drop digits)
    length + oneOfLength ['l', 'L', 'j', 'J'] (text.drop length)

/-- The length of the number at the start of a text; none has the length zero. -/
def numberLength (text : List Char) : Nat :=
  let inBase :=
    match text with
    | '0' :: base :: digits =>
        if base = 'x' ∨ base = 'X' then
          prefixedLength (fun c => c.isDigit || ('a' ≤ c.toLower && c.toLower ≤ 'f')) digits
        else if base = 'o' ∨ base = 'O' then
          prefixedLength (fun c => '0' ≤ c && c ≤ '7') digits
        else if base = 'b' ∨ base = 'B' then
          prefixedLength (fun c => c == '0' || c == '1') digits
        else
          0
    | _ => 0
  max inBase (decimalLength text)

/-! ## Text literals -/

/-- The quote that opens a text literal, and its length with the letters in front. -/
def openingQuote? (text : List Char) : Option (Quote × Nat) :=
  let letters :=
    text.takeWhile fun c => ['f', 'r', 'b', 'u'].contains c.toLower
  let quote : Quote :=
    { mark := '"'
      raw := letters.any fun c => c.toLower == 'r'
      format := letters.any fun c => c.toLower == 'f' }
  match text.drop letters.length with
  | '"' :: '"' :: '"' :: _ => some ({ quote with tripled := true }, letters.length + 3)
  | '\'' :: '\'' :: '\'' :: _ =>
      some ({ quote with mark := '\'', tripled := true }, letters.length + 3)
  | mark :: _ =>
      if mark = '"' ∨ mark = '\'' ∨ mark = '`' then
        some ({ quote with mark }, letters.length + 1)
      else
        none
  | [] => none

namespace Quote

/-- Whether a text begins with the quote that closes the literal. -/
def closes (quote : Quote) (text : List Char) : Bool :=
  (List.replicate (if quote.tripled then 3 else 1) quote.mark).isPrefixOf text

/-- The length of the closing quote. -/
def length (quote : Quote) : Nat :=
  if quote.tripled then 3 else 1

end Quote

/-- What ends a stretch of text inside of a literal. -/
inductive LiteralEnd where
  /-- The closing quote. -/
  | closed
  /-- The opening brace of a field. -/
  | field
  deriving Repr, DecidableEq

/-- How much a backslash and what it escapes take, and whether text has to follow. -/
def escapeLength (quote : Quote) : List Char → Nat × Bool
  | '\r' :: '\n' :: _ => (3, false)
  | '\n' :: _ => (2, false)
  | 'N' :: '\x7b' :: rest =>
      if quote.format && !quote.raw then
        (4 + (rest.takeWhile (· != '\x7d')).length, false)
      else
        (2, true)
  | c :: _ =>
      if quote.raw then
        (if c == quote.mark || c == '\\' then 2 else 1, true)
      else
        (2, !(['\\', '\'', '"', 'a', 'b', 'f', 'r', 'n', 't', 'v'].contains c))
  | [] => (1, true)

/--
The length of a stretch of text inside of a literal, with what ends it; there is none if
nothing does.  A literal that is not tripled ends on its line, unless the line ends right
where a stretch begins.
-/
def stretchFrom (quote : Quote) (begun : Bool) (taken : Nat) (text : List Char) :
    Option (LiteralEnd × Nat) :=
  match text with
  | [] => none
  | c :: rest =>
      if quote.closes (c :: rest) then
        some (.closed, taken + quote.length)
      else if quote.format && c == '\x7b' then
        match rest with
        | '\x7b' :: rest => stretchFrom quote false (taken + 2) rest
        | _ => some (.field, taken + 1)
      else if quote.format && c == '\x7d' then
        match rest with
        | '\x7d' :: rest => stretchFrom quote false (taken + 2) rest
        | _ => none
      else if c == '\\' then
        let (length, begun) := escapeLength quote rest
        stretchFrom quote begun (taken + length) (rest.drop (length - 1))
      else if c == '\n' && begun && !quote.tripled then
        none
      else
        stretchFrom quote true (taken + 1) rest
termination_by text.length

/-- The stretch at the start of a text. -/
def stretch? (quote : Quote) (text : List Char) : Option (LiteralEnd × Nat) :=
  stretchFrom quote false 0 text

end ChordEditor.Python
