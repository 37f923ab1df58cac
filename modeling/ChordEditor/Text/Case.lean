import ChordEditor.Text.Classes
import ChordEditor.Text.Table.CaseForms
import ChordEditor.Text.Table.Cased

namespace ChordEditor.Text

/-!
# Letter case

Upper and lower case of characters and of texts.  A character may have a form
of several characters.  In a text the capital sigma has two lower-case forms:
the final one at the end of a word, the ordinary one elsewhere.
-/

/-- The upper-case form of a character. -/
def upperForm (c : Char) : List Char :=
  if isAscii c then [c.toUpper] else Table.upperMap.apply c

/-- The lower-case form of a character. -/
def lowerForm (c : Char) : List Char :=
  if isAscii c then [c.toLower] else Table.lowerMap.apply c

/-- The first character of the upper-case form. -/
def upperChar (c : Char) : Char :=
  (upperForm c).headD c

/-- The first character of the lower-case form. -/
def lowerChar (c : Char) : Char :=
  (lowerForm c).headD c

/-- Characters that have a case. -/
def isCased (c : Char) : Bool :=
  if isAscii c then c.isAlpha else Table.cased.contains c

/-- Characters that are skipped in looking for the cased neighbour of a letter. -/
def isCaseIgnorable (c : Char) : Bool :=
  if isAscii c then
    c == '\'' || c == '.' || c == ':' || c == '^' || c == Char.ofNat 0x60
  else
    Table.caseIgnorable.contains c

/-- Whether the first character that is not skipped is cased. -/
def startsCased (chars : List Char) : Bool :=
  match chars.dropWhile isCaseIgnorable with
  | [] => false
  | c :: _ => isCased c

/-- Lower case of the rest of a text; `before` holds what precedes it, nearest first. -/
def lowerTextAfter (before : List Char) : List Char → List Char
  | [] => []
  | c :: rest =>
      let form :=
        if c = 'Σ' then
          if startsCased before && !startsCased rest then ['ς'] else ['σ']
        else
          lowerForm c
      form ++ lowerTextAfter (c :: before) rest

/-- A text in lower case. -/
def lowerText (text : List Char) : List Char :=
  lowerTextAfter [] text

/-- A text in upper case. -/
def upperText (text : List Char) : List Char :=
  text.flatMap upperForm

/-- A name with its ASCII letters in lower case. -/
def asciiLower (name : String) : String :=
  String.ofList (name.toList.map Char.toLower)

/-- A text with its ASCII letters in upper case. -/
def asciiUpper (text : List Char) : List Char :=
  text.map Char.toUpper

end ChordEditor.Text
