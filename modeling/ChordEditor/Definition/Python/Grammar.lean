import ChordEditor.Definition.Python.Rule

namespace ChordEditor.Python

/-!
# The grammar of modules

One rule for each part of a module.  The grammar covers statements of the second and the
third major version alike, so `print` and `exec` can be statements and can be names.  No
part begins with itself, and nothing is repeated that can be empty.
-/

namespace Rule

def name : Rule := .read .name

/-- A name, also one that is a word with a meaning of its own. -/
def anyName : Rule := oneOf [name, .read .softName]

def number : Rule := .read .number

def expression : Rule := .part (.expression true)

/-- Expressions with commas between them. -/
def expressions : Rule := commaList expression

def suite : Rule := seq [":", .part .suite]

def typeHint : Rule := .part .typeHint

/-- Names with dots between them. -/
def dottedName : Rule := seq [name, .many (seq [".", name])]

/-- Text literals, one after the other. -/
def strings : Rule := seq [.read .string, .many (.read .string)]

def call : Rule := seq ["(", .part .arguments, ")"]

def subscripts : Rule := seq ["[", commaList (.part .subscript), "]"]

/-- Targets in round brackets. -/
def targetTuple : Rule := seq ["(", .maybe (.part .targets), ")"]

/-- Names to import, each maybe under another name. -/
def importList : Rule := commaList (seq [dottedName, .maybe (seq ["as", name])])

def elseClause : Rule := seq ["else", suite]

def finallyClause : Rule := seq ["finally", suite]

def exceptClause : Rule :=
  seq
    [ "except",
      .maybe
        (oneOf
          [ seq [expression, .maybe (seq [oneOf ["as", ","], expression])],
            seq ["*", expression, .maybe (seq ["as", expression])] ]),
      suite ]

/-- The rest of a loop, behind the word that may say that it is asynchronous. -/
def forLoop : Rule :=
  seq ["for", .part .targets, "in", expressions, suite, .maybe elseClause]

def withBlock : Rule := seq ["with", expressions, suite]

def typeParameters : Rule :=
  seq ["[", commaList (seq [typeHint, .maybe (seq [":", typeHint])]), "]"]

/-- The name that a definition defines. -/
def defined (outermost : Bool) : Rule :=
  .read (if outermost then .definedName else .name)

/-- Patterns of a case with commas between them. -/
def casePatterns : Rule := commaList (.part .casePattern)

/-- A target of a comprehension and where its values come from. -/
def comprehensionFor : Rule :=
  seq
    [ .maybe "async", "for", .part .targets, "in",
      commaList (.part (.expression false)) ]

/-- An argument of a call that is more than an expression. -/
def markedArgument : Rule :=
  oneOf [seq ["*", expression], seq ["**", expression], seq [anyName, "=", expression]]

/-- An item between round or square brackets. -/
def item : Rule := oneOf [expression, seq ["*", expression], .part .yields]

/-- An entry of a dictionary. -/
def entry : Rule := oneOf [seq ["**", expression], seq [expression, ":", expression]]

/-- A parameter's type hint, where parameters have them. -/
def hintedIf (hinted : Bool) (rule : Rule) : Rule :=
  if hinted then seq [rule, .maybe (seq [":", typeHint])] else rule

/-- The statements that fit on one line. -/
def simpleStatement : Rule :=
  oneOf
    [ seq ["import", importList],
      seq
        [ "from",
          oneOf [dottedName, seq [".", .many ".", .maybe dottedName]],
          "import",
          oneOf ["*", importList, seq ["(", importList, ")"]] ],
      seq ["print", expressions],
      seq ["assert", commaSeparated expression],
      seq ["return", .maybe expressions],
      seq ["del", expressions],
      seq ["raise", .maybe expressions, .maybe (seq ["from", expression])],
      "pass",
      "break",
      "continue",
      seq [oneOf ["global", "nonlocal"], commaSeparated name],
      seq
        [ "exec", oneOf [.read .string, name],
          .maybe (seq ["in", commaSeparated expression]) ],
      seq ["type", typeHint, "=", typeHint],
      .part .assignment,
      expressions,
      .part .yields ]

/-- The statements that govern others. -/
def compoundStatement (outermost : Bool) : Rule :=
  oneOf
    [ seq
        [ "if", expression, suite, .many (seq ["elif", expression, suite]),
          .maybe elseClause ],
      seq ["while", expression, suite, .maybe elseClause],
      seq
        [ "try", suite,
          oneOf
            [ finallyClause,
              seq
                [ exceptClause, .many exceptClause, .maybe elseClause,
                  .maybe finallyClause ] ] ],
      seq
        [ "match", expressions, ":",
          oneOf
            [ seq [.read .indent, .many (.part .caseClause), .read .dedent],
              .read .newline ] ],
      forLoop,
      withBlock,
      seq ["async", oneOf [forLoop, withBlock, .part (.function outermost)]],
      .part (.function outermost),
      .part (.classBody outermost),
      .part (.decorated outermost) ]

/-- What brackets are written around, and other operands that are no names. -/
def literalOperand : Rule :=
  oneOf
    [ number,
      strings,
      "True",
      "False",
      "None",
      "...",
      seq ["(", .maybe (.part .items), ")"],
      seq ["[", .maybe (.part .items), "]"],
      seq ["\x7b", .maybe (.part .entries), "\x7d"] ]

/-- A piece of an expression between two operands, with the second one. -/
def operation : Rule :=
  seq
    [ oneOf
        [ .read (.operator .binary),
          "in",
          seq ["not", "in"],
          seq ["is", .maybe "not"] ],
      .part .operand ]

/-- The rule of an expression. -/
def expressionIf (conditional : Bool) : Rule :=
  let again := .part (.expression conditional)
  let goesOn :=
    [ seq [oneOf ["and", "or"], again], seq ["as", again] ] ++
      if conditional then [seq ["if", expression, "else", expression]] else []
  oneOf
    [ seq [.part .operand, .many operation, .maybe (oneOf goesOn)],
      seq ["not", again],
      seq [anyName, ":=", again],
      .part (.lambda conditional) ]

/-- The rule of a pattern of a case, without alternatives. -/
def simplePattern : Rule :=
  let entryPattern :=
    oneOf
      [ seq [.part .simplePattern, ":", .part .casePattern],
        seq [oneOf ["*", "**"], name] ]
  oneOf
    [ seq [oneOf ["*", "**"], name],
      seq ["[", .maybe casePatterns, "]"],
      seq ["(", .maybe casePatterns, ")"],
      seq ["\x7b", .maybe (commaList entryPattern), "\x7d"],
      strings,
      "True",
      "False",
      "None",
      seq [.maybe "-", number, .maybe (seq [oneOf ["+", "-"], number])],
      seq [dottedName, .maybe (seq ["(", .maybe casePatterns, ")"])] ]

/-- The rule of a parameter. -/
def parameter (hinted : Bool) : Rule :=
  let default := .maybe (seq ["=", expression])
  oneOf
    [ seq [hintedIf hinted name, default],
      "/",
      seq ["*", .maybe (hintedIf hinted (.part .place))],
      seq ["**", hintedIf hinted (.part .place)],
      seq [targetTuple, default] ]

/-- The rule of a part. -/
def ofPart : Part → Rule
  | .module => .many (.part (.statement true))
  | .statement outermost =>
      oneOf
        [ seq
            [ .part .simpleStatement, .many (seq [";", .part .simpleStatement]),
              .maybe ";", .read .newline ],
          compoundStatement outermost ]
  | .simpleStatement => simpleStatement
  | .assignment =>
      let given := seq ["=", .part .value]
      seq
        [ .part .targets,
          oneOf
            [ given,
              seq [":", typeHint, .maybe given],
              seq [.read (.operator .assignment), .part .value] ] ]
  | .value => oneOf [expressions, .part .yields, .part .assignment]
  | .suite =>
      oneOf
        [ seq
            [ .part .simpleStatement, .many (seq [";", .part .simpleStatement]),
              .maybe ";", .read .newline ],
          seq [.read .indent, .many (.part (.statement false)), .read .dedent],
          .read .newline ]
  | .decorated outermost =>
      seq
        [ "@", expression, .read .newline,
          oneOf
            [ .part (.decorated outermost),
              .part (.classBody outermost),
              seq [.maybe "async", .part (.function outermost)] ] ]
  | .function outermost =>
      seq
        [ "def", defined outermost, .maybe typeParameters,
          "(", .maybe (commaList (.part (.parameter true))), ")",
          .maybe (seq ["->", typeHint]), suite ]
  | .classBody outermost =>
      seq ["class", defined outermost, .maybe typeParameters, .maybe call, suite]
  | .caseClause =>
      seq ["case", casePatterns, .maybe (seq ["if", expression]), suite]
  | .casePattern =>
      oneOf
        [ seq
            [ .part .simplePattern, .many (seq ["|", .part .simplePattern]),
              .many (seq ["as", name]) ],
          seq [name, "=", .part .simplePattern] ]
  | .simplePattern => simplePattern
  | .expression conditional => expressionIf conditional
  | .lambda conditional =>
      seq
        [ "lambda", .maybe (commaList (.part (.parameter false))), ":",
          .part (.expression conditional) ]
  | .operand =>
      oneOf
        [ seq [.read (.operator .unary), .part .operand],
          seq ["await", .part .operand],
          seq ["*", .part .place],
          seq
            [ oneOf [anyName, .part .literal],
              .many (oneOf [seq [".", name], call, subscripts]) ] ]
  | .literal => literalOperand
  | .arguments =>
      let more := seq [.many (seq [",", oneOf [expression, markedArgument]]), .maybe ","]
      .maybe
        (oneOf
          [ ",",
            seq [expression, oneOf [.part .comprehension, more]],
            seq [markedArgument, more] ])
  | .subscript =>
      let upper := seq [":", .maybe expression, .maybe (seq [":", .maybe expression])]
      oneOf [seq [expression, .maybe upper], upper]
  | .items =>
      seq
        [ item,
          oneOf [.part .comprehension, seq [.many (seq [",", item]), .maybe ","]] ]
  | .entries =>
      let moreItems := seq [.many (seq [",", item]), .maybe ","]
      let moreEntries := seq [.many (seq [",", entry]), .maybe ","]
      oneOf
        [ ",",
          seq ["**", expression, moreEntries],
          seq [oneOf [seq ["*", expression], .part .yields], moreItems],
          seq
            [ expression,
              oneOf
                [ .part .comprehension,
                  moreItems,
                  seq [":", expression, oneOf [.part .comprehension, moreEntries]] ] ] ]
  | .yields =>
      seq ["yield", .maybe (oneOf [seq ["from", expression], expressions])]
  | .comprehension =>
      seq
        [ comprehensionFor,
          .many (oneOf [comprehensionFor, seq ["if", .part (.expression false)]]) ]
  | .parameter hinted => parameter hinted
  | .typeHint => oneOf [expression, seq ["**", name]]
  | .targets => commaList (.part .target)
  | .target =>
      oneOf
        [ .part .place,
          seq ["*", .part .place],
          targetTuple,
          seq ["[", .maybe (.part .targets), "]"] ]
  | .place =>
      oneOf
        [seq [anyName, .part .placeEnd], seq [.part .literal, .part .placeMore]]
  | .placeEnd => .maybe (.part .placeMore)
  | .placeMore =>
      oneOf
        [ seq [oneOf [seq [".", name], subscripts], .part .placeEnd],
          seq [call, .part .placeMore] ]
  | .field =>
      seq
        [ oneOf [expressions, .part .yields],
          .maybe "=",
          .maybe (.read .conversion),
          .maybe (seq [":", .read .formatSpec]),
          "\x7d" ]

end Rule

end ChordEditor.Python
