namespace ChordEditor

/-!
# Token classes

What a piece of a line is highlighted as.
-/

/-- The classes of highlighted text. -/
inductive TokenClass where
  /-- Text in the default colour, which is not reported. -/
  | plain
  | keyword
  | operator
  | number
  | constant
  | string
  | comment
  | function
  | «class»
  | argument
  | callable
  /-- Names of errors. -/
  | errorType
  | module
  | builtin
  | selfRef
  | type
  | variable
  /-- A name in front of a dot. -/
  | object
  deriving Repr, DecidableEq

namespace TokenClass

/-- The name of a class. -/
def name : TokenClass → String
  | .plain => "Plain"
  | .keyword => "Keyword"
  | .operator => "Operator"
  | .number => "Number"
  | .constant => "Constant"
  | .string => "String"
  | .comment => "Comment"
  | .function => "Function"
  | .class => "Class"
  | .argument => "Argument"
  | .callable => "Callable"
  | .errorType => "ErrorType"
  | .module => "Module"
  | .builtin => "Builtin"
  | .selfRef => "SelfRef"
  | .type => "Type"
  | .variable => "Variable"
  | .object => "Object"

/-- All classes. -/
def all : List TokenClass :=
  [ .plain, .keyword, .operator, .number, .constant, .string, .comment, .function,
    .class, .argument, .callable, .errorType, .module, .builtin, .selfRef, .type,
    .variable, .object ]

/-- The class with a name. -/
def ofName? (name : String) : Option TokenClass :=
  all.find? fun tokenClass => tokenClass.name == name

end TokenClass

end ChordEditor
