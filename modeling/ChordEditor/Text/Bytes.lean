namespace ChordEditor.Text

/-!
# Bytes and rows of a text

Patterns, delimiters and syntax trees are placed by the bytes before them.  A character
takes one to four of them; a number of bytes that cuts a character has no place.

Rows are ended by LF, whatever other line breaks the text has.
-/

/-- The largest number of bytes for which a text can be made. -/
def maxBytes : Nat := Nat.pow 2 63 - 1

/-- The number of bytes that a text takes up. -/
def byteLength : List Char → Nat
  | [] => 0
  | c :: rest => c.utf8Size + byteLength rest

/-- How many characters the first bytes of a text make up, if none of them is cut. -/
def charsIn? : Nat → List Char → Option Nat
  | 0, _ => some 0
  | _ + 1, [] => none
  | bytes + 1, c :: rest =>
      if c.utf8Size ≤ bytes + 1 then
        (charsIn? (bytes + 1 - c.utf8Size) rest).map (· + 1)
      else
        none

/-- The characters between two numbers of bytes, if none of them is cut. -/
def betweenBytes? (start stop : Nat) (text : List Char) : Option (List Char) := do
  let first ← charsIn? start text
  let last ← charsIn? stop text
  return (text.take last).drop first

/-- The bytes before the character at a place. -/
def bytesBefore (text : List Char) (place : Nat) : Nat :=
  byteLength (text.take place)

/-- For every byte of a text, and its end, the character that starts there or behind it. -/
def charIndexFrom (index : Nat) : List Char → List Nat
  | [] => [index]
  | c :: rest =>
      index :: List.replicate (c.utf8Size - 1) (index + 1) ++ charIndexFrom (index + 1) rest

/-- The table that makes places in bytes places in characters. -/
def charIndexMap (text : List Char) : List Nat :=
  charIndexFrom 0 text

/-- What a text has behind its last LF. -/
def openRow (text : List Char) : List Char :=
  (text.reverse.takeWhile (· != '\n')).reverse

/-- The rows of a text without the LF or CR LF that ends them; an empty last row is none. -/
def rows : List Char → List (List Char)
  | [] => []
  | '\n' :: rest => [] :: rows rest
  | '\r' :: '\n' :: rest => [] :: rows rest
  | c :: rest =>
      match rows rest with
      | [] => [[c]]
      | row :: others => (c :: row) :: others

end ChordEditor.Text
