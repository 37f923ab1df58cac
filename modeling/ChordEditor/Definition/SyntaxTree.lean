import ChordEditor.Text.Bytes

namespace ChordEditor

/-!
# Syntax trees

What a parser makes of a text, as far as definitions are looked up in it.  The parser
itself is none of this library: it is a function that a registry of grammars holds.
-/

/-- A place of a text by its row and by the bytes before it in that row. -/
structure Point where
  row : Nat
  bytes : Nat
  deriving Repr, DecidableEq

/-- The point at a place. -/
def Point.ofPlace (text : List Char) (place : Nat) : Point :=
  { row := (text.take place).count '\n'
    bytes := Text.byteLength (Text.openRow (text.take place)) }

/-- What is known of a node of a syntax tree besides its children. -/
structure SyntaxNode where
  /-- What the grammar calls the node. -/
  kind : String
  /-- What its parent calls it, if it does. -/
  field : Option String := none
  /-- Where it begins, as the parser says. -/
  start : Point
  /-- The bytes of the text before the node. -/
  startByte : Nat
  /-- The bytes of the text up to its end. -/
  stopByte : Nat
  /-- Whether it is more than a mark or a word of the grammar. -/
  isNamed : Bool := true
  /-- Whether it is what could not be read, or what the parser has put in. -/
  isFault : Bool := false
  /-- Whether there is a fault in it. -/
  hasFault : Bool := false
  deriving Repr, DecidableEq

/-- The text of a node, if it does not cut a character. -/
def SyntaxNode.textIn? (node : SyntaxNode) (text : List Char) : Option (List Char) :=
  Text.betweenBytes? node.startByte node.stopByte text

/-- A node with the nodes below it. -/
inductive SyntaxTree where
  | branch (top : SyntaxNode) (below : List SyntaxTree)

/-- What makes a syntax tree of a text, or says why there is no such tool at hand. -/
abbrev Parser := List Char → Except String SyntaxTree

namespace SyntaxTree

/-- The node on top of a tree. -/
def top : SyntaxTree → SyntaxNode
  | branch top _ => top

/-- The trees right below the top of a tree. -/
def children : SyntaxTree → List SyntaxTree
  | branch _ below => below

mutual

/-- The first fault of a tree, looked for only where there is one. -/
def firstFault? : SyntaxTree → Option SyntaxNode
  | branch top below =>
      if top.isFault then some top
      else if top.hasFault then firstFaultIn? below
      else none

/-- The first fault of some trees. -/
def firstFaultIn? : List SyntaxTree → Option SyntaxNode
  | [] => none
  | tree :: trees =>
      match firstFault? tree with
      | some fault => some fault
      | none => firstFaultIn? trees

end

/-- The first of the children that fills a field. -/
def childIn? (tree : SyntaxTree) (field : String) : Option SyntaxTree :=
  tree.children.find? fun child => child.top.field = some field

/-- The definition that a statement is: itself, or what it puts a decorator on. -/
def definition? (statement : SyntaxTree) : Option SyntaxTree :=
  if statement.top.kind = "function_definition" ∨ statement.top.kind = "class_definition" then
    some statement
  else if statement.top.kind = "decorated_definition" then
    statement.childIn? "definition"
  else
    none

/-- The node of the name that a statement defines, if it is a definition. -/
def nameNode? (statement : SyntaxTree) : Option SyntaxNode := do
  let definition ← statement.definition?
  let name ← definition.childIn? "name"
  return name.top

/-- The statements of a module. -/
def statements (root : SyntaxTree) : List SyntaxTree :=
  root.children.filter fun child => child.top.isNamed

/-- The node of a name where a module first defines it, outside of all blocks. -/
def definedName? (root : SyntaxTree) (text name : List Char) : Option SyntaxNode :=
  root.statements.findSome? fun statement =>
    statement.nameNode?.filter fun node => node.textIn? text = some name

end SyntaxTree

end ChordEditor
