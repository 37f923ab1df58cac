import ChordEditor.Grammar.TokenClass
import ChordEditor.Pattern.Match
import ChordEditor.Pattern.Notation

namespace ChordEditor

/-!
# Grammars

A grammar says how lines are highlighted: an ordered list of rules, each giving a
class to what its pattern matches, and a table of constructs that may go over several
lines.  Later rules win over earlier ones.

A construct is known by its number in the table, counted from one.  A number has eight
bits, so that a table holds 255 constructs at most; zero is no number of a construct.
-/

/-- Gives a class to what a pattern, or one of its groups, matches. -/
structure GrammarRule where
  /-- The pattern as it is written. -/
  source : String
  pattern : Pattern
  /-- The group that is classified; zero for the whole match. -/
  group : Nat
  tokenClass : TokenClass
  deriving Repr, DecidableEq

/-- A piece of text between two delimiters that may go over several lines. -/
structure Construct where
  opening : List Char
  closing : List Char
  tokenClass : TokenClass
  deriving Repr, DecidableEq

/-- There are numbers for no constructs. -/
theorem Construct.numbered_nil : ([] : List Construct).length ≤ 255 :=
  Nat.zero_le 255

/-- Rules and constructs of a kind of text. -/
structure Grammar where
  name : String
  /-- What begins a comment that ends with the line. -/
  commentMarker : List Char
  rules : List GrammarRule := []
  constructs : List Construct := []
  /-- Every construct has a number. -/
  numbered : constructs.length ≤ 255 := by decide
  deriving Repr, DecidableEq

/-- Why a grammar cannot be built or found. -/
inductive GrammarError where
  | unknownGrammar (name : String)
  | badRule (pattern : String)
  /-- There is no number left for a construct; building the grammar stops the program. -/
  | numberOverflow
  deriving Repr, DecidableEq

/-- What a grammar is built from. -/
inductive GrammarPart where
  /-- Whole matches of a written pattern, or matches of one of its groups. -/
  | rule (source : String) (group : Nat) (tokenClass : TokenClass)
  /-- Any of some words, as whole words. -/
  | words (words : List String) (tokenClass : TokenClass)
  /-- Any of some symbols, the longest first. -/
  | symbols (symbols : List String) (tokenClass : TokenClass)
  | construct (opening closing : String) (tokenClass : TokenClass)
  deriving Repr, DecidableEq

namespace GrammarRule

/-- A text written as a pattern that matches it. -/
def escaped (text : String) : String :=
  String.ofList (escapeForPattern text.toList)

/-- The rule for any of some words, as whole words. -/
def ofWords (words : List String) (tokenClass : TokenClass) : GrammarRule :=
  { source := "\\b(?:" ++ "|".intercalate (words.map escaped) ++ ")\\b"
    pattern := .wholeWord (words.map String.toList)
    group := 0
    tokenClass }

/-- A list with only the first of equal neighbours. -/
def withoutRepeats : List String → List String
  | [] => []
  | [symbol] => [symbol]
  | first :: second :: rest =>
      if first = second then
        withoutRepeats (second :: rest)
      else
        first :: withoutRepeats (second :: rest)

/-- Symbols with the longest first; those of the same size in bytes keep their order. -/
def longestFirst (symbols : List String) : List String :=
  withoutRepeats
    (symbols.mergeSort fun first second => first.utf8ByteSize ≥ second.utf8ByteSize)

/-- The rule for any of some symbols. -/
def ofSymbols (symbols : List String) (tokenClass : TokenClass) : GrammarRule :=
  let sorted := longestFirst symbols
  { source := "|".intercalate (sorted.map escaped)
    pattern := .choice (sorted.map fun symbol => .literal symbol.toList)
    group := 0
    tokenClass }

/-- The rule for a written pattern. -/
def ofSource
    (source : String)
    (group : Nat)
    (tokenClass : TokenClass) : Except GrammarError GrammarRule :=
  match Pattern.read? source.toList with
  | some pattern => .ok { source, pattern, group, tokenClass }
  | none => .error (.badRule source)

end GrammarRule

namespace Grammar

/-- Add a part behind the others. -/
def add (grammar : Grammar) : GrammarPart → Except GrammarError Grammar
  | .rule source group tokenClass => do
      let rule ← GrammarRule.ofSource source group tokenClass
      return { grammar with rules := grammar.rules ++ [rule] }
  | .words words tokenClass =>
      .ok { grammar with rules := grammar.rules ++ [.ofWords words tokenClass] }
  | .symbols symbols tokenClass =>
      .ok { grammar with rules := grammar.rules ++ [.ofSymbols symbols tokenClass] }
  | .construct opening closing tokenClass =>
      if room : grammar.constructs.length < 255 then
        .ok
          { grammar with
            constructs := grammar.constructs ++ [⟨opening.toList, closing.toList, tokenClass⟩]
            numbered := by
              rw [List.length_append]
              exact room }
      else
        .error .numberOverflow

/-- Build a grammar from its parts. -/
def ofParts
    (name commentMarker : String)
    (parts : List GrammarPart) : Except GrammarError Grammar :=
  parts.foldlM add { name, commentMarker := commentMarker.toList }

/-- The construct with a number. -/
def construct? (grammar : Grammar) (number : Nat) : Option Construct :=
  if number = 0 then none else grammar.constructs[number - 1]?

end Grammar

end ChordEditor
