namespace ChordEditor.Python

/-!
# Rules of a grammar

A rule says how texts of one kind are made: of single terminals, of parts that have a
rule of their own, and of sequences, choices and repetitions of other rules.  Rules are
plain data; reading by them is defined elsewhere.
-/

/-- Operators that can stand in the same places. -/
inductive OperatorKind where
  /-- In front of an operand. -/
  | unary
  /-- Between two operands. -/
  | binary
  /-- Between a target and the value that changes it. -/
  | assignment
  deriving Repr, DecidableEq

namespace OperatorKind

/-- How the operators of a kind are written. -/
def marks : OperatorKind → List String
  | .unary => ["+", "-", "~"]
  | .binary =>
      [ "+", "-", "*", "/", "//", "%", "@", "**", "|", "&", "^", "<<", ">>",
        "<", "<=", "==", "!=", ">=", ">", "<>" ]
  | .assignment =>
      ["+=", "-=", "*=", "/=", "@=", "//=", "%=", "**=", ">>=", "<<=", "&=", "^=", "|="]

end OperatorKind

/-- The quotes around a text literal. -/
structure Quote where
  mark : Char
  /-- Whether the quote is written three times. -/
  tripled : Bool := false
  /-- Whether backslashes stand for themselves. -/
  raw : Bool := false
  /-- Whether fields in braces are filled in. -/
  format : Bool := false
  deriving Repr, DecidableEq

/-- What is read in one go. -/
inductive Terminal where
  /-- A word with a meaning of its own in this place. -/
  | word (text : String)
  /-- A name; words that have no meaning of their own in this place are names too. -/
  | name
  /-- The name of what a statement outside of all blocks defines. -/
  | definedName
  /-- A word that is a name although it has a meaning of its own in this place. -/
  | softName
  | number
  | string
  | mark (text : String)
  | operator (kind : OperatorKind)
  /-- The end of a simple statement's line. -/
  | newline
  /-- The start of an indented block. -/
  | indent
  /-- The end of an indented block. -/
  | dedent
  | endOfText
  /-- Text of a literal up to its next field or its end. -/
  | formatText (quote : Quote)
  /-- How the value of a field is laid out, up to the field's end. -/
  | formatSpec
  /-- A conversion of a field's value. -/
  | conversion
  deriving Repr, DecidableEq

/-- The parts that have a rule of their own. -/
inductive Part where
  | module
  /-- A statement; outside of all blocks if `outermost`. -/
  | statement (outermost : Bool)
  | simpleStatement
  | assignment
  /-- What is assigned. -/
  | value
  /-- What a header governs: statements on its line, or an indented block. -/
  | suite
  | decorated (outermost : Bool)
  | function (outermost : Bool)
  | classBody (outermost : Bool)
  | caseClause
  | casePattern
  | simplePattern
  /-- An expression; `conditional` tells whether its last piece may be a choice. -/
  | expression (conditional : Bool)
  | lambda (conditional : Bool)
  | operand
  /-- Operands other than names, without what follows them. -/
  | literal
  /-- What is between the brackets of a call. -/
  | arguments
  | subscript
  /-- What is between round or square brackets. -/
  | items
  /-- What is between braces. -/
  | entries
  | yields
  | comprehension
  | parameter (hinted : Bool)
  | typeHint
  | targets
  | target
  /-- A name, an attribute or a subscript, which can be assigned to. -/
  | place
  /-- What may follow a place, to make another one. -/
  | placeEnd
  /-- What has to follow other operands to make a place. -/
  | placeMore
  /-- What is between the braces of a field. -/
  | field
  deriving Repr, DecidableEq

/-- How texts of one kind are made. -/
inductive Rule where
  /-- Of no text. -/
  | never
  /-- Of the empty text. -/
  | nothing
  | read (terminal : Terminal)
  | part (part : Part)
  | both (first second : Rule)
  | either (first second : Rule)
  | maybe (rule : Rule)
  /-- Any number of times, also none. -/
  | many (rule : Rule)
  deriving Repr, DecidableEq

namespace Rule

/-- One rule after the other. -/
def seq : List Rule → Rule
  | [] => .nothing
  | [rule] => rule
  | rule :: rules => .both rule (seq rules)

/-- One of some rules. -/
def oneOf : List Rule → Rule
  | [] => .never
  | [rule] => rule
  | rule :: rules => .either rule (oneOf rules)

/-- A word or a mark, as it is written. -/
def literal (text : String) : Rule :=
  .read (if text.toList.all Char.isAlpha then .word text else .mark text)

instance : Coe String Rule := ⟨literal⟩

/-- One or more, with commas between them. -/
def commaSeparated (rule : Rule) : Rule :=
  seq [rule, .many (seq [",", rule])]

/-- One or more, with commas between them and maybe one behind. -/
def commaList (rule : Rule) : Rule :=
  seq [commaSeparated rule, .maybe ","]

end Rule

end ChordEditor.Python
