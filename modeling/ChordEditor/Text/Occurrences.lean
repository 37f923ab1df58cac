import ChordEditor.Text.Classes

namespace ChordEditor.Text

/-!
# Occurrences of a text in another

Occurrences are found from left to right and do not overlap: the search goes on
behind each one.  Occurrences as a whole word are those with a word boundary at both
ends, in the sense in which patterns understand words.
-/

/-- Whether there is a word boundary between two neighbours, either of which may be missing. -/
def isWordBoundary (left right : Option Char) : Bool :=
  left.any isPatternWordChar != right.any isPatternWordChar

/-- Whether a text that goes on with `ahead` holds the needle there. -/
def beginsWith (needle : List Char) (_ : Option Char) (ahead : List Char) : Bool :=
  needle.isPrefixOf ahead

/-- Whether a text that goes on with `ahead` holds the needle there as a whole word. -/
def beginsWithWord
    (needle : List Char)
    (previous : Option Char)
    (ahead : List Char) : Bool :=
  needle.isPrefixOf ahead &&
    isWordBoundary previous ahead.head? &&
    isWordBoundary needle.getLast? (ahead.drop needle.length).head?

/--
Places in the rest of a text where a test holds, `width` characters apart at least.
`skip` characters belong to the last occurrence, and `place` is the place of the rest.
-/
def occurrencesFrom
    (holds : Option Char → List Char → Bool)
    (width : Nat) : Option Char → List Char → Nat → Nat → List Nat
  | _, [], _, _ => []
  | _, c :: rest, skip + 1, place =>
      occurrencesFrom holds width (some c) rest skip (place + 1)
  | previous, c :: rest, 0, place =>
      if holds previous (c :: rest) then
        place :: occurrencesFrom holds width (some c) rest (width - 1) (place + 1)
      else
        occurrencesFrom holds width (some c) rest 0 (place + 1)

/-- Places where a text that is not empty occurs in another. -/
def occurrences (needle text : List Char) : List Nat :=
  occurrencesFrom (beginsWith needle) needle.length none text 0 0

/-- Places where a text that is not empty occurs in another as a whole word. -/
def wordOccurrences (needle text : List Char) : List Nat :=
  occurrencesFrom (beginsWithWord needle) needle.length none text 0 0

/-- The place of the first occurrence; a text that is empty occurs at the start. -/
def indexOf? (needle : List Char) : List Char → Option Nat
  | [] => if needle.isEmpty then some 0 else none
  | c :: rest =>
      if needle.isPrefixOf (c :: rest) then
        some 0
      else
        (indexOf? needle rest).map (· + 1)

end ChordEditor.Text
