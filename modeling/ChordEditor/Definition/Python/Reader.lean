import ChordEditor.Definition.Python.Grammar
import ChordEditor.Definition.Python.Layout
import ChordEditor.Definition.Python.Literal

namespace ChordEditor.Python

/-!
# Reading a module

A reader holds all ways to go on that fit what it has read: each is what has to be read
next, and the rules for what follows.  Reading a token keeps the ways that accept it.
What is accepted next decides how the text is cut into tokens: a word is a name where it
has no other meaning, and line ends count only where a statement can end.
-/

/-- One way to go on: what is read next, and the rules for what follows. -/
structure Choice where
  next : Terminal
  rest : List Rule
  deriving Repr, DecidableEq

namespace Choice

/-- The choices that some rules leave, looking through at most `depth` nested rules. -/
def ofRules : Nat → List Rule → List Choice
  | 0, _ => []
  | _, [] => []
  | depth + 1, rule :: rest =>
      match rule with
      | .never => []
      | .nothing => ofRules depth rest
      | .read terminal => [⟨terminal, rest⟩]
      | .part part => ofRules depth (.ofPart part :: rest)
      | .both first second => ofRules depth (first :: second :: rest)
      | .either first second => ofRules depth (first :: rest) ++ ofRules depth (second :: rest)
      | .maybe rule => ofRules depth (rule :: rest) ++ ofRules depth rest
      | .many rule => ofRules depth (rule :: .many rule :: rest) ++ ofRules depth rest

/-- More nested rules than can come before the next terminal. -/
def depthLimit : Nat := 1000

/-- The choices that several lists of rules leave, each once. -/
def ofFollowers (followers : List (List Rule)) : List Choice :=
  (followers.flatMap (ofRules depthLimit)).eraseDups

end Choice

/-- Why a text cannot be read on. -/
inductive FaultCause where
  /-- A character that begins no token. -/
  | unreadable
  /-- A text literal without an end. -/
  | unclosedLiteral
  /-- A token where an operand is missing that could have come before it. -/
  | missingOperand
  /-- A token that fits nowhere. -/
  | misplaced
  deriving Repr, DecidableEq

/-- A place where a text cannot be read on. -/
structure Fault where
  cause : FaultCause
  /-- Where the token begins. -/
  place : Nat
  /-- Where the token before it ends. -/
  after : Nat
  /-- Where the statement begins. -/
  statement : Nat
  /-- The number of brackets that are open. -/
  openBrackets : Nat
  deriving Repr, DecidableEq

/-- The state of reading a module. -/
structure Reader where
  choices : List Choice
  /-- The text ahead. -/
  ahead : List Char
  /-- How much of the text is behind. -/
  place : Nat := 0
  /-- The columns of the open blocks, the innermost first. -/
  indents : List Nat := [0]
  inField : Bool := false
  /-- Where the last token ended. -/
  after : Nat := 0
  /-- Where the statement being read begins, once it has begun. -/
  statement : Option Nat := none
  /-- Where the names begin that are defined outside of all blocks, the last first. -/
  defined : List Nat := []

namespace Reader

/-- The reader at the start of a module. -/
def start (text : List Char) : Reader :=
  { choices := Choice.ofFollowers [[.part .module, .read .endOfText]], ahead := text }

/-- Whether something can be read next. -/
def expects (reader : Reader) (terminal : Terminal) : Bool :=
  reader.choices.any fun choice => choice.next == terminal

/-- What decides about layout at this place. -/
def layoutContext (reader : Reader) : LayoutContext :=
  { newline := reader.expects .newline
    indent := reader.expects .indent
    dedent := reader.expects .dedent
    string := reader.expects .string
    closing := [")", "]", "\x7d"].any fun mark => reader.expects (.mark mark)
    except := reader.expects (.word "except")
    inField := reader.inField
    indents := reader.indents }

/-- Leave some characters behind. -/
def skip (reader : Reader) (length : Nat) : Reader :=
  { reader with ahead := reader.ahead.drop length, place := reader.place + length }

/-- Go on with the choices that some rules leave. -/
def goOn (reader : Reader) (followers : List (List Rule)) : Reader :=
  { reader with choices := Choice.ofFollowers followers }

/-- The rules that follow where something is read that is accepted. -/
def following (reader : Reader) (accepted : Terminal → Bool) : List (List Rule) :=
  (reader.choices.filter fun choice => accepted choice.next).map Choice.rest

/-- Read a token of some length. -/
def take (reader : Reader) (length : Nat) (followers : List (List Rule)) : Reader :=
  let next := (reader.goOn followers).skip length
  { next with
    after := next.place
    statement := some (reader.statement.getD reader.place) }

/-- The number of brackets that are open. -/
def openBrackets (reader : Reader) : Nat :=
  match reader.choices with
  | [] => 0
  | choice :: _ =>
      ((.read choice.next :: choice.rest).filter fun rule =>
        [")", "]", "\x7d"].any fun mark => rule == .read (.mark mark)).length

/-- The fault of being unable to read on. -/
def fault (reader : Reader) (cause : FaultCause) : Fault :=
  { cause
    place := reader.place
    after := reader.after
    statement := reader.statement.getD reader.place
    openBrackets := reader.openBrackets }

/-- Read a token that lines and indentation make. -/
def takeLayout (reader : Reader) (token : LayoutToken) : Except Fault Reader :=
  let accepting (terminal : Terminal) (indents : List Nat) : Except Fault Reader :=
    match reader.following (· == terminal) with
    | [] => .error (reader.fault .misplaced)
    | followers => .ok { reader.goOn followers with indents, statement := none }
  match token with
  | .newline => accepting .newline reader.indents
  | .indent columns => accepting .indent (columns :: reader.indents)
  | .dedent => accepting .dedent reader.indents.tail

/-- Words that can be names although they have a meaning of their own. -/
def softWords : List String :=
  ["print", "exec", "async", "await", "match", "type"]

/-- Read a word, which is a name unless it has a meaning of its own here. -/
def takeWord (reader : Reader) (word : List Char) : Except Fault Reader :=
  let text := String.ofList word
  let isSoft := softWords.contains text
  let meant := reader.following fun next =>
    next == .word text || (isSoft && next == .softName)
  let names := reader.following fun next => next == .name || next == .definedName
  if !meant.isEmpty then
    .ok (reader.take word.length meant)
  else if names.isEmpty then
    .error (reader.fault .misplaced)
  else
    let next := reader.take word.length names
    if reader.expects .definedName then
      .ok { next with defined := reader.place :: reader.defined }
    else
      .ok next

/-- Read a text literal, or its start if it has fields. -/
def takeString (reader : Reader) (quote : Quote) (length : Nat) : Except Fault Reader :=
  let followers := reader.following (· == .string)
  if quote.format then
    let next := reader.take length (followers.map (.read (.formatText quote) :: ·))
    .ok { next with inField := true }
  else
    match stretch? quote (reader.ahead.drop length) with
    | some (_, stretch) =>
        .ok { reader.take (length + stretch) followers with inField := false }
    | none => .error (reader.fault .unclosedLiteral)

/-- Read the text of a literal up to its next field or its end. -/
def takeFormatText (reader : Reader) (quote : Quote) : Except Fault Reader :=
  let followers := reader.following (· == .formatText quote)
  match stretch? quote reader.ahead with
  | some (.closed, length) => .ok { reader.take length followers with inField := false }
  | some (.field, length) =>
      .ok (reader.take length
        (followers.map fun rest => .part .field :: .read (.formatText quote) :: rest))
  | none => .error (reader.fault .unclosedLiteral)

/-- Read how a field is laid out, up to a field in it or its end. -/
def takeFormatSpec (reader : Reader) : Reader :=
  let followers := reader.following (· == .formatSpec)
  let isText (c : Char) : Bool := c != '\x7b' && c != '\x7d' && c != '\n'
  let length := (reader.ahead.takeWhile isText).length
  match reader.ahead.drop length with
  | '\x7b' :: _ =>
      reader.take (length + 1)
        (followers.map fun rest => .part .field :: .read .formatSpec :: rest)
  | _ => reader.take length followers

/-- How a terminal that is a mark can be written. -/
def marksOf : Terminal → List String
  | .mark text => [text]
  | .operator kind => kind.marks
  | _ => []

/-- The longest mark at the start of the text that can be read here. -/
def markAhead? (reader : Reader) : Option String :=
  let marks := reader.choices.flatMap fun choice => marksOf choice.next
  (marks.filter fun mark => mark.toList.isPrefixOf reader.ahead).foldl
    (fun longest mark =>
      match longest with
      | none => some mark
      | some other => if other.length < mark.length then some mark else some other)
    none

/-- Characters with which marks begin. -/
def markStarts : List Char :=
  "()[]\x7b\x7d,:;.=+-*/%@&|^~<>!".toList

/-- Why the text ahead cannot be read. -/
def faultAhead (reader : Reader) : Fault :=
  match reader.ahead with
  | [] => reader.fault .misplaced
  | c :: _ =>
      if reader.statement.isSome && reader.expects .number &&
          [')', ']', '\x7d', ',', ':'].contains c then
        reader.fault .missingOperand
      else if isWordStart c || c.isDigit || c == '"' || c == '\'' || markStarts.contains c then
        reader.fault .misplaced
      else
        reader.fault .unreadable

/-- Read a mark, or a conversion. -/
def takeMark (reader : Reader) : Except Fault Reader :=
  match reader.markAhead? with
  | some mark =>
      .ok (reader.take mark.length (reader.following fun next => (marksOf next).contains mark))
  | none =>
      match reader.ahead with
      | '!' :: c :: _ =>
          if reader.expects .conversion && c.isLower then
            .ok (reader.take 2 (reader.following (· == .conversion)))
          else
            .error reader.faultAhead
      | _ => .error reader.faultAhead

/-- Read a token that stands on a line, with nothing in front of it. -/
def takeToken (reader : Reader) : Except Fault Reader :=
  let word := wordAt reader.ahead
  let opening := if reader.expects .string then openingQuote? reader.ahead else none
  let number := if reader.expects .number then numberLength reader.ahead else 0
  match opening with
  | some (quote, length) => reader.takeString quote length
  | none =>
      if 0 < number then
        .ok (reader.take number (reader.following (· == .number)))
      else if word.isEmpty then
        reader.takeMark
      else
        reader.takeWord word

/-- What one step of reading comes to. -/
inductive Progress where
  | more (reader : Reader)
  /-- All is read. -/
  | done (reader : Reader)
  | failed (fault : Fault)

/-- Go on unless there is a fault. -/
def Progress.ofExcept : Except Fault Reader → Progress
  | .ok reader => .more reader
  | .error fault => .failed fault

/-- The quote of the literal whose text is ahead, if the reader is inside of one. -/
def openQuote? (reader : Reader) : Option Quote :=
  reader.choices.findSome? fun choice =>
    match choice.next with
    | .formatText quote => some quote
    | _ => none

/-- Read one token, or pass over one comment. -/
def step (reader : Reader) : Progress :=
  match reader.openQuote? with
  | some quote => .ofExcept (reader.takeFormatText quote)
  | none =>
      if reader.expects .formatSpec then
        .more reader.takeFormatSpec
      else
        match reader.layoutContext.token? reader.ahead with
        | some token => .ofExcept (reader.takeLayout token)
        | none =>
            let next := reader.skip (blankLength reader.ahead)
            match next.ahead with
            | [] => if next.expects .endOfText then .done next else .failed next.faultAhead
            | '#' :: _ => .more (next.skip (next.ahead.takeWhile (· != '\n')).length)
            | _ => .ofExcept next.takeToken

/-- Read up to the end, in at most `steps` steps. -/
def run : Nat → Reader → Except Fault Reader
  | 0, reader => .error reader.faultAhead
  | steps + 1, reader =>
      match reader.step with
      | .more next => run steps next
      | .done final => .ok final
      | .failed fault => .error fault

/-- More steps than reading a text takes: each character has few layout tokens around it. -/
def stepLimit (text : List Char) : Nat :=
  4 * text.length + 16

end Reader

/-- Where the names begin that a module defines outside of all blocks, in their order. -/
def definedNames (text : List Char) : Except Fault (List Nat) :=
  match Reader.run (Reader.stepLimit text) (Reader.start text) with
  | .ok reader => .ok reader.defined.reverse
  | .error fault => .error fault

end ChordEditor.Python
