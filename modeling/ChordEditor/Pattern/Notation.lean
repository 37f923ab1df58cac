import ChordEditor.Pattern.Basic

namespace ChordEditor

/-!
# Writing patterns

Patterns are written in the usual way: characters stand for themselves, `.` for any
character but the line feed, `[...]` for a set, `\w`, `\d` and `\s` for kinds of
characters, `*`, `+` and `?` for repetition, `|` for alternatives, `(...)` for a
numbered group and `(?:...)` for one without a number, `^`, `$` and `\b` for places.

Reading goes in two steps.  `PatternToken.tokens?` cuts the text into tokens, and
`PatternReader` builds the pattern with a stack of the groups that are open.
-/

/-- Whether a character has to be escaped to stand for itself. -/
def isPatternMeta (c : Char) : Bool :=
  "\\.+*?()|[]\x7b\x7d^$#&-~".toList.contains c

/-- A text written so that it stands for itself. -/
def escapeForPattern (text : List Char) : List Char :=
  text.flatMap fun c => if isPatternMeta c then ['\\', c] else [c]

/-- The pieces that a written pattern consists of. -/
inductive PatternToken where
  | oneOf (chars : CharSet)
  | assert (anchor : Anchor)
  | openGroup (numbered : Bool)
  | closeGroup
  | bar
  | star (greedy : Bool)
  | plus (greedy : Bool)
  | optional (greedy : Bool)
  deriving Repr, DecidableEq

namespace PatternToken

/-- The kind of characters that a letter behind a backslash stands for. -/
def kindItem? : Char → Option CharItem
  | 'w' => some (.within .word)
  | 'd' => some (.within .digit)
  | 's' => some (.within .blank)
  | 'W' => some (.otherThan .word)
  | 'D' => some (.otherThan .digit)
  | 'S' => some (.otherThan .blank)
  | _ => none

/-- The character that an escape stands for. -/
def escaped? (c : Char) : Option Char :=
  match c with
  | 'n' => some '\n'
  | 't' => some '\t'
  | 'r' => some '\r'
  | 'f' => some '\x0c'
  | 'v' => some '\x0b'
  | 'a' => some '\x07'
  | _ =>
      if Text.isAscii c && !c.isAlphanum && 0x20 < c.toNat && c.toNat < 0x7f &&
          c != '<' && c != '>' then
        some c
      else
        none

/-- The item of a set that an escape stands for. -/
def escapedItem? (c : Char) : Option CharItem :=
  match kindItem? c with
  | some item => some item
  | none => (escaped? c).map fun c => .range c c

/-- The token that an escape outside a set stands for. -/
def escapedToken? (c : Char) : Option PatternToken :=
  match c with
  | 'b' => some (.assert .wordBoundary)
  | 'B' => some (.assert .insideOrOutside)
  | _ => (escapedItem? c).map fun item => .oneOf ⟨[item], false⟩

/-- The token that a character stands for outside a set, if it needs no other characters. -/
def simple (c : Char) : PatternToken :=
  match c with
  | '.' => .oneOf .anyButNewline
  | '^' => .assert .textStart
  | '$' => .assert .textEnd
  | '|' => .bar
  | '(' => .openGroup true
  | ')' => .closeGroup
  | _ => .oneOf (.single c)

/--
The tokens of a written pattern.  While a set is open, `inSet` holds what has been
read of it.
-/
def tokensFrom? : Option CharSet → List Char → Option (List PatternToken)
  | none, [] => some []
  | some _, [] => none
  | none, '\\' :: c :: rest => do
      let token ← escapedToken? c
      let tokens ← tokensFrom? none rest
      return token :: tokens
  | none, '\\' :: [] => none
  | none, '[' :: '^' :: ']' :: rest =>
      tokensFrom? (some ⟨[.range ']' ']'], true⟩) rest
  | none, '[' :: '^' :: rest => tokensFrom? (some ⟨[], true⟩) rest
  | none, '[' :: ']' :: rest => tokensFrom? (some ⟨[.range ']' ']'], false⟩) rest
  | none, '[' :: rest => tokensFrom? (some ⟨[], false⟩) rest
  | none, '(' :: '?' :: ':' :: rest => (tokensFrom? none rest).map (.openGroup false :: ·)
  | none, '(' :: '?' :: _ => none
  | none, '*' :: '?' :: rest => (tokensFrom? none rest).map (.star false :: ·)
  | none, '*' :: rest => (tokensFrom? none rest).map (.star true :: ·)
  | none, '+' :: '?' :: rest => (tokensFrom? none rest).map (.plus false :: ·)
  | none, '+' :: rest => (tokensFrom? none rest).map (.plus true :: ·)
  | none, '?' :: '?' :: rest => (tokensFrom? none rest).map (.optional false :: ·)
  | none, '?' :: rest => (tokensFrom? none rest).map (.optional true :: ·)
  | none, c :: rest =>
      if c = '\x7b' then none else (tokensFrom? none rest).map (simple c :: ·)
  | some set, ']' :: rest => (tokensFrom? none rest).map (.oneOf set :: ·)
  | some _, '[' :: _ => none
  | some set, '\\' :: c :: rest => do
      let item ← escapedItem? c
      tokensFrom? (some { set with items := set.items ++ [item] }) rest
  | some _, '\\' :: [] => none
  | some set, lo :: '-' :: hi :: rest =>
      if hi = ']' then
        (tokensFrom? none rest).map
          (.oneOf { set with items := set.items ++ [.range lo lo, .range '-' '-'] } :: ·)
      else if lo ≤ hi ∧ hi ≠ '\\' ∧ hi ≠ '[' then
        tokensFrom? (some { set with items := set.items ++ [.range lo hi] }) rest
      else
        none
  | some set, c :: rest =>
      tokensFrom? (some { set with items := set.items ++ [.range c c] }) rest

/-- The tokens of a written pattern. -/
def tokens? (text : List Char) : Option (List PatternToken) :=
  tokensFrom? none text

end PatternToken

/-- A group that is open while a pattern is read. -/
structure PatternFrame where
  /-- The number of the group, if it has one. -/
  number : Option Nat
  /-- The alternatives read so far, the last one first. -/
  alternatives : List Pattern := []
  /-- The sequence being read, its last pattern first. -/
  sequence : List Pattern := []
  deriving Repr, DecidableEq

namespace PatternFrame

/-- Put a pattern behind the sequence being read. -/
def add (frame : PatternFrame) (pattern : Pattern) : PatternFrame :=
  { frame with sequence := pattern :: frame.sequence }

/-- Begin another alternative. -/
def nextAlternative (frame : PatternFrame) : PatternFrame :=
  { frame with
    alternatives := .sequence frame.sequence.reverse :: frame.alternatives
    sequence := [] }

/-- Change the last pattern of the sequence; there has to be one. -/
def changeLast? (frame : PatternFrame) (change : Pattern → Pattern) : Option PatternFrame :=
  match frame.sequence with
  | [] => none
  | last :: earlier => some { frame with sequence := change last :: earlier }

/-- The pattern of the whole group. -/
def close (frame : PatternFrame) : Pattern :=
  let body := Pattern.choice frame.nextAlternative.alternatives.reverse
  match frame.number with
  | some number => .group number body
  | none => body

end PatternFrame

/-- What has been read of a pattern: the innermost group, and those around it. -/
structure PatternReader where
  inner : PatternFrame
  outer : List PatternFrame := []
  /-- The numbered groups so far. -/
  groups : Nat := 0
  deriving Repr, DecidableEq

namespace PatternReader

/-- Take one more token. -/
def take? (reader : PatternReader) : PatternToken → Option PatternReader
  | .oneOf chars => some { reader with inner := reader.inner.add (.oneOf chars) }
  | .assert anchor => some { reader with inner := reader.inner.add (.assert anchor) }
  | .bar => some { reader with inner := reader.inner.nextAlternative }
  | .star greedy =>
      (reader.inner.changeLast? (.star greedy)).map fun inner => { reader with inner }
  | .plus greedy =>
      (reader.inner.changeLast? (.repeated greedy)).map fun inner => { reader with inner }
  | .optional greedy =>
      (reader.inner.changeLast? (.optional greedy)).map fun inner => { reader with inner }
  | .openGroup numbered =>
      let groups := if numbered then reader.groups + 1 else reader.groups
      some
        { inner := { number := if numbered then some groups else none }
          outer := reader.inner :: reader.outer
          groups }
  | .closeGroup =>
      match reader.outer with
      | [] => none
      | frame :: outer =>
          some { reader with inner := frame.add reader.inner.close, outer }

/-- The pattern read, if no group is open. -/
def finish? (reader : PatternReader) : Option Pattern :=
  if reader.outer.isEmpty then some reader.inner.close else none

end PatternReader

namespace Pattern

/-- Read a written pattern. -/
def read? (text : List Char) : Option Pattern := do
  let tokens ← PatternToken.tokens? text
  let reader ← tokens.foldlM PatternReader.take? { inner := { number := none } }
  reader.finish?

end Pattern

end ChordEditor
