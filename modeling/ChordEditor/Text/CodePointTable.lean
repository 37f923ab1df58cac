namespace ChordEditor.Text

/-!
# Tables of code points

A set of code points is kept as its ranges in increasing order, so that
membership is one binary search.  Tables are written as hexadecimal text,
one range after another, each either `lo-hi` or a single code point.

A case map sends some code points to a short list of characters and leaves all
others as they are.  Its entries stand in increasing order as well, each written
`from>to` or `from>to.to` when the form has several characters.
-/

/-- The value of a hexadecimal digit in lower case. -/
def hexDigit? (c : Char) : Option Nat :=
  if '0' ≤ c ∧ c ≤ '9' then
    some (c.toNat - '0'.toNat)
  else if 'a' ≤ c ∧ c ≤ 'f' then
    some (c.toNat - 'a'.toNat + 10)
  else
    none

/-- The number written by the hexadecimal digits of a text; other characters are skipped. -/
def hexNumber (digits : List Char) : Nat :=
  digits.foldl
    (fun value c =>
      match hexDigit? c with
      | some digit => value * 16 + digit
      | none => value)
    0

/-- The pieces of a text between the occurrences of a separator. -/
def piecesBy (separator : Char) : List Char → List (List Char)
  | [] => [[]]
  | c :: rest =>
      if c = separator then
        [] :: piecesBy separator rest
      else
        match piecesBy separator rest with
        | [] => [[c]]
        | piece :: pieces => (c :: piece) :: pieces

/-- A closed range of code points. -/
structure CodePointRange where
  lo : Nat
  hi : Nat
  deriving Repr, DecidableEq, Inhabited

namespace CodePointRange

/-- Read `lo-hi`, or a single code point. -/
def ofHex (text : List Char) : CodePointRange :=
  match piecesBy '-' text with
  | [lo, hi] => ⟨hexNumber lo, hexNumber hi⟩
  | _ => ⟨hexNumber text, hexNumber text⟩

end CodePointRange

/-- A set of code points, as disjoint ranges in increasing order. -/
structure CodePointSet where
  ranges : Array CodePointRange

namespace CodePointSet

/-- Read the ranges of a table, several on a line with a space between them. -/
def ofHexRanges (rows : List String) : CodePointSet :=
  ⟨(rows.flatMap fun row =>
      (piecesBy ' ' row.toList).map CodePointRange.ofHex).toArray⟩

/-- Search for a code point among the ranges with index in `[low, high)`. -/
def search
    (ranges : Array CodePointRange)
    (point low high : Nat) : Bool :=
  if low < high then
    let middle := (low + high) / 2
    match ranges[middle]? with
    | none => false
    | some range =>
        if point < range.lo then
          search ranges point low middle
        else if range.hi < point then
          search ranges point (middle + 1) high
        else
          true
  else
    false
termination_by high - low

/-- Whether a character belongs to the set. -/
def contains (set : CodePointSet) (c : Char) : Bool :=
  search set.ranges c.toNat 0 set.ranges.size

end CodePointSet

/-- One code point and the characters of its other form. -/
structure CaseEntry where
  point : Nat
  form : List Char
  deriving Repr, DecidableEq, Inhabited

namespace CaseEntry

/-- Read `from>to` with the characters of the form separated by dots. -/
def ofHex (text : List Char) : CaseEntry :=
  match piecesBy '>' text with
  | [point, form] =>
      ⟨hexNumber point, (piecesBy '.' form).map fun digits => Char.ofNat (hexNumber digits)⟩
  | _ => ⟨0, []⟩

end CaseEntry

/-- A map of characters to their other form, with entries in increasing order. -/
structure CaseMap where
  entries : Array CaseEntry

namespace CaseMap

/-- Read the entries of a table, several on a line with a space between them. -/
def ofHexPairs (rows : List String) : CaseMap :=
  ⟨(rows.flatMap fun row =>
      (piecesBy ' ' row.toList).map CaseEntry.ofHex).toArray⟩

/-- Search for the entry of a code point among those with index in `[low, high)`. -/
def search?
    (entries : Array CaseEntry)
    (point low high : Nat) : Option (List Char) :=
  if low < high then
    let middle := (low + high) / 2
    match entries[middle]? with
    | none => none
    | some entry =>
        if point < entry.point then
          search? entries point low middle
        else if entry.point < point then
          search? entries point (middle + 1) high
        else
          some entry.form
  else
    none
termination_by high - low

/-- The other form of a character, which is the character itself when the map has none. -/
def apply (map : CaseMap) (c : Char) : List Char :=
  (search? map.entries c.toNat 0 map.entries.size).getD [c]

end CaseMap

end ChordEditor.Text
