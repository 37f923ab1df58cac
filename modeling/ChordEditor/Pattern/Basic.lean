import ChordEditor.Text.Classes

namespace ChordEditor

/-!
# Patterns

A pattern describes pieces of a line: sets of characters, sequences, alternatives,
repetition, numbered groups and places such as word boundaries.  Alternatives and
repetitions are ordered by preference, which decides between several ways to match.
-/

/-- Kinds of characters that have a letter of their own in patterns. -/
inductive CharKind where
  | word
  | digit
  | blank
  deriving Repr, DecidableEq

namespace CharKind

/-- Whether a character is of the kind. -/
def holds : CharKind → Char → Bool
  | .word, c => Text.isPatternWordChar c
  | .digit, c => Text.isDecimalDigit c
  | .blank, c => Text.isBlank c

end CharKind

/-- One item of a set of characters. -/
inductive CharItem where
  | range (lo hi : Char)
  | within (kind : CharKind)
  | otherThan (kind : CharKind)
  deriving Repr, DecidableEq

namespace CharItem

/-- Whether a character is covered by the item. -/
def holds : CharItem → Char → Bool
  | .range lo hi, c => lo ≤ c && c ≤ hi
  | .within kind, c => kind.holds c
  | .otherThan kind, c => !kind.holds c

end CharItem

/-- A set of characters: those that its items cover, or all others. -/
structure CharSet where
  items : List CharItem
  negated : Bool := false
  deriving Repr, DecidableEq

namespace CharSet

/-- Whether a character belongs to the set. -/
def contains (set : CharSet) (c : Char) : Bool :=
  set.items.any (·.holds c) != set.negated

/-- The set of a single character. -/
def single (c : Char) : CharSet :=
  ⟨[.range c c], false⟩

/-- All characters but the line feed. -/
def anyButNewline : CharSet :=
  ⟨[.range '\n' '\n'], true⟩

end CharSet

/-- Conditions on a place that take no character. -/
inductive Anchor where
  | textStart
  | textEnd
  | wordBoundary
  | insideOrOutside
  deriving Repr, DecidableEq

/-- Descriptions of pieces of text. -/
inductive Pattern where
  | empty
  | oneOf (chars : CharSet)
  | assert (anchor : Anchor)
  | seq (first second : Pattern)
  /-- The first alternative is preferred. -/
  | alt (first second : Pattern)
  /-- One or more times: as often as possible if greedy, else as seldom. -/
  | repeated (greedy : Bool) (body : Pattern)
  | group (number : Nat) (body : Pattern)
  deriving Repr, DecidableEq

namespace Pattern

/-- At most once. -/
def optional (greedy : Bool) (body : Pattern) : Pattern :=
  if greedy then .alt body .empty else .alt .empty body

/-- Any number of times. -/
def star (greedy : Bool) (body : Pattern) : Pattern :=
  optional greedy (.repeated greedy body)

/-- One pattern after another. -/
def sequence : List Pattern → Pattern
  | [] => .empty
  | [pattern] => pattern
  | pattern :: patterns => .seq pattern (sequence patterns)

/-- Any of some patterns, the first ones preferred. -/
def choice : List Pattern → Pattern
  | [] => .empty
  | [pattern] => pattern
  | pattern :: patterns => .alt pattern (choice patterns)

/-- A text as it stands. -/
def literal (text : List Char) : Pattern :=
  sequence (text.map fun c => .oneOf (.single c))

/-- Any of some texts as a whole word. -/
def wholeWord (words : List (List Char)) : Pattern :=
  sequence
    [.assert .wordBoundary, choice (words.map literal), .assert .wordBoundary]

end Pattern

end ChordEditor
