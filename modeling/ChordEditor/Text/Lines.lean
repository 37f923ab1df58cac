namespace ChordEditor.Text

/-!
# Lines of a text

Eight line breaks end a line: LF, CR, CR LF, VT, FF, NEL, LS and PS.  `lines`
cuts a text into its lines, each with the break that ends it, so the lines
joined are the text (`flatten_lines`).  A text that ends with a break has an
empty last line.

The other functions address places of a text by line, or find the line of a
place.  The place between the CR and the LF of one break belongs to the line
that this break ends.
-/

/-- Whether a character, alone, ends a line. -/
def isLineBreak (c : Char) : Bool :=
  c == '\n' || c == '\r' || c == '\x0b' || c == '\x0c' ||
    c == '\x85' || c == '\u2028' || c == '\u2029'

/-- The lines of a text, each with the break that ends it. -/
def lines : List Char → List (List Char)
  | [] => [[]]
  | '\r' :: '\n' :: rest => ['\r', '\n'] :: lines rest
  | c :: rest =>
      if isLineBreak c then
        [c] :: lines rest
      else
        match lines rest with
        | [] => [[c]]
        | line :: others => (c :: line) :: others

/-- There is always a line. -/
theorem lines_ne_nil (text : List Char) : lines text ≠ [] := by
  fun_cases lines text <;> simp_all

/-- The lines of a text make up the text. -/
theorem flatten_lines (text : List Char) : (lines text).flatten = text := by
  fun_induction lines text <;> simp_all

/-- The number of lines. -/
def lineCount (text : List Char) : Nat :=
  (lines text).length

/-- The number of line breaks, a CR LF counting once. -/
def breakCount (text : List Char) : Nat :=
  lineCount text - 1

/-- The place where a line starts; the end of the text for a line that does not exist. -/
def lineStartIn (text : List Char) (line : Nat) : Nat :=
  ((lines text).take line).flatten.length

/-- The line that holds a place. -/
def lineOfIn : List Char → Nat → Nat
  | _, 0 => 0
  | [], _ => 0
  | '\r' :: '\n' :: _, 1 => 0
  | '\r' :: '\n' :: rest, place + 2 => lineOfIn rest place + 1
  | c :: rest, place + 1 =>
      if isLineBreak c then lineOfIn rest place + 1 else lineOfIn rest place

/-- Whether a character belongs to the breaks that are left out of a line's own text. -/
def isReturn (c : Char) : Bool :=
  c == '\n' || c == '\r'

/-- A line without the LF, CR or CR LF that ends it; other breaks stay. -/
def withoutReturn (line : List Char) : List Char :=
  (line.reverse.dropWhile isReturn).reverse

end ChordEditor.Text
