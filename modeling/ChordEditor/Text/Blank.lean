import ChordEditor.Text.Classes

namespace ChordEditor.Text

/-!
# Blank edges of a text

Trimming, and the indentation of a line.
-/

/-- A text without the blank characters at its start. -/
def trimStart (text : List Char) : List Char :=
  text.dropWhile isBlank

/-- A text without the blank characters at its end. -/
def trimEnd (text : List Char) : List Char :=
  (text.reverse.dropWhile isBlank).reverse

/-- A text without the blank characters at both ends. -/
def trim (text : List Char) : List Char :=
  trimEnd (trimStart text)

/-- The blank characters at the start of a text. -/
def leadingBlank (text : List Char) : List Char :=
  text.takeWhile isBlank

/-- The columns that the indentation of a line takes, a tab counting for `tabWidth`. -/
def indentWidth (text : List Char) (tabWidth : Nat) : Nat :=
  (leadingBlank text).foldl
    (fun columns c => columns + if c = '\t' then tabWidth else 1)
    0

/-- Whether a text has nothing but blank characters. -/
def isBlankText (text : List Char) : Bool :=
  text.all isBlank

/-- The indentation and the text after it make up the text. -/
theorem leadingBlank_append_trimStart (text : List Char) :
    leadingBlank text ++ trimStart text = text :=
  List.takeWhile_append_dropWhile

end ChordEditor.Text
