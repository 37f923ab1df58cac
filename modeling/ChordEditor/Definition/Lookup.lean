import ChordEditor.Definition.SyntaxTree

namespace ChordEditor

/-!
# Looking up definitions in a text

Only texts of one grammar have definitions.  A parser reads the text, and the definition
is looked up in the tree that it makes.  The tree tells the place of a name by its row and
by the bytes before it in that row.
-/

/-- A place by line and column, both counted from zero. -/
structure Location where
  line : Nat
  column : Nat
  deriving Repr, DecidableEq

/-- The location of a point: its bytes are made characters of the row if they are whole. -/
def Location.ofPoint (text : List Char) (point : Point) : Location :=
  let row := (Text.rows text)[point.row]?.getD []
  { line := point.row
    column := (Text.charsIn? point.bytes row).getD point.bytes }

/-- What looking up a definition came to. -/
inductive DefinitionLookup where
  | found (location : Location)
  | notFound
  /-- Texts of this kind have no definitions to look up. -/
  | unsupported
  /-- The text is not well formed; the line is counted from one. -/
  | brokenText (line : Nat)
  /-- There is no parser at hand. -/
  | noParser (reason : String)
  deriving Repr, DecidableEq

namespace DefinitionLookup

/-- Why nothing can be looked up without a parser. -/
def parserMessage (reason : String) : String :=
  "parser unavailable: " ++ reason

/-- Look up a name in the tree of a module: the first definition that has the name. -/
def findIn (root : SyntaxTree) (text name : List Char) : DefinitionLookup :=
  if root.top.hasFault then
    .brokenText ((root.firstFault?.elim 0 fun fault => fault.start.row) + 1)
  else
    match root.definedName? text name with
    | some node => .found (.ofPoint text node.start)
    | none => .notFound

/-- Look up the definition of a name in a text of some grammar. -/
def find (parser : Parser) (grammar : String) (text name : List Char) : DefinitionLookup :=
  if grammar = "python" then
    match parser text with
    | .ok root => findIn root text name
    | .error reason => .noParser reason
  else
    .unsupported

end DefinitionLookup

end ChordEditor
