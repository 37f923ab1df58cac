namespace ChordEditor.Python

/-!
# Lines and indentation

Between two tokens there are blanks, line ends and comments.  Where the grammar asks for
it, they are tokens themselves: the end of a line, and the start and the end of a block,
which the indentation of the next line decides.
-/

/-- What lies in front of a token. -/
structure LineGap where
  /-- Whether a line ends in it. -/
  crossed : Bool := false
  /-- The column at which the token's line begins, a tab counting eight. -/
  indent : Nat := 0
  /-- The column of the first comment that has a line of its own. -/
  firstComment : Option Nat := none
  deriving Repr, DecidableEq

namespace LineGap

/--
Pass over blanks, line ends and joined lines, and over lines with nothing but a comment
if `comments`.  A comment behind a token, or a stray backslash, is nothing to pass over.
-/
def scan
    (comments : Bool)
    (inComment : Bool)
    (gap : LineGap) : List Char → Option (LineGap × List Char)
  | [] => some ({ gap with crossed := true, indent := 0 }, [])
  | '\n' :: rest => scan comments false { gap with crossed := true, indent := 0 } rest
  | c :: rest =>
      if inComment then
        scan comments true gap rest
      else
        match c, rest with
        | ' ', rest => scan comments false { gap with indent := gap.indent + 1 } rest
        | '\t', rest => scan comments false { gap with indent := gap.indent + 8 } rest
        | '\r', rest | '\x0c', rest => scan comments false { gap with indent := 0 } rest
        | '\\', '\n' :: rest | '\\', '\r' :: '\n' :: rest => scan comments false gap rest
        | '\\', [] | '\\', ['\r'] => some ({ gap with crossed := true, indent := 0 }, [])
        | '\\', _ => none
        | '#', rest =>
            if !comments then
              some (gap, '#' :: rest)
            else if gap.crossed then
              let first := gap.firstComment.getD gap.indent
              scan comments true { gap with firstComment := some first } rest
            else
              none
        | _, _ => some (gap, c :: rest)

end LineGap

/-- Whether a character between tokens means nothing. -/
def isBlankBetween (c : Char) : Bool :=
  c == ' ' || c == '\t' || c == '\r' || c == '\n' || c == '\x0c' ||
    c == '\u200b' || c == '\u2060' || c == '\ufeff'

/-- The length of the blanks, line ends and joined lines at the start of a text. -/
def blankLength : List Char → Nat
  | [] => 0
  | ['\\'] => 1
  | '\\' :: '\n' :: rest => blankLength rest + 2
  | '\\' :: '\r' :: '\n' :: rest => blankLength rest + 3
  | c :: rest => if isBlankBetween c then blankLength rest + 1 else 0

/-- The tokens that lines and indentation make. -/
inductive LayoutToken where
  | newline
  /-- A block begins, indented by some columns. -/
  | indent (columns : Nat)
  | dedent
  deriving Repr, DecidableEq

/-- What can be read at a place, as far as it decides about layout. -/
structure LayoutContext where
  newline : Bool
  indent : Bool
  dedent : Bool
  /-- Whether a text literal can begin. -/
  string : Bool
  /-- Whether an open bracket can be closed. -/
  closing : Bool
  /-- Whether an `except` clause can begin. -/
  except : Bool
  /-- Whether the place is in a field of a text literal. -/
  inField : Bool
  /-- The columns of the open blocks, the innermost first. -/
  indents : List Nat
  deriving Repr, DecidableEq

namespace LayoutContext

/-- Whether comments are looked through for the indentation behind them. -/
def seesComments (context : LayoutContext) : Bool :=
  context.newline || context.indent || context.dedent || context.except

/-- Whether a block may end here: it can, or a line ends where none should. -/
def endsBlock (context : LayoutContext) (ahead : List Char) : Bool :=
  let quoted :=
    match ahead with
    | c :: _ => c == '"' || c == '\'' || c == '`'
    | [] => false
  context.dedent ||
    (!context.newline && !context.closing && !(context.string && quoted))

/-- The layout token at the start of a text, if there is one. -/
def token? (context : LayoutContext) (text : List Char) : Option LayoutToken := do
  let (gap, ahead) ← LineGap.scan context.seesComments false {} text
  let column := context.indents.headD 0
  if !gap.crossed then
    none
  else if context.indent && column < gap.indent then
    some (.indent gap.indent)
  else if context.endsBlock ahead && gap.indent < column && !context.inField &&
      gap.firstComment.all (· < column) then
    some .dedent
  else if context.newline then
    some .newline
  else
    none

end LayoutContext

end ChordEditor.Python
