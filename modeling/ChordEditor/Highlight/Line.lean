import ChordEditor.Grammar.Basic
import ChordEditor.Text.Bytes

namespace ChordEditor

/-!
# Highlighting a line

Rules and constructs paint ranges of columns, one over the other: rules in the order
of the grammar, then constructs.  The class of a column is that of the paint over it
that came last.  Matches and delimiters are found by their bytes, and a table makes the
bounds of a paint columns.

A construct that is open at the end of a line is carried into the next one, and that
is all one line has to know of those before it.
-/

/-- The number of the construct that is open between two lines, if there is one. -/
abbrev CarryState := Option Nat

/-- A class given to the columns from `start` up to `stop`. -/
structure Paint where
  start : Nat
  stop : Nat
  tokenClass : TokenClass
  deriving Repr, DecidableEq

namespace Highlight

/-- The first place where one of some constructs opens, with the number of the construct. -/
def earliestOpen? (constructs : List Construct) (text : List Char) : Option (Nat × Nat) :=
  constructs.zipIdx.foldl
    (fun earliest (construct, index) =>
      match Text.indexOf? construct.opening text, earliest with
      | none, _ => earliest
      | some place, none => some (place, index + 1)
      | some place, some (earlier, number) =>
          if place < earlier then some (place, index + 1) else some (earlier, number))
    none

/-- What a scan for constructs finds in the rest of a line from a place outside of them. -/
inductive ConstructStep where
  /-- No construct opens. -/
  | outside
  /-- A construct opens and does not close. -/
  | unclosed (start number : Nat) (tokenClass : TokenClass)
  /-- A construct opens and closes. -/
  | closed (start stop : Nat) (tokenClass : TokenClass)
  deriving Repr, DecidableEq

/-- Look for the next construct in the rest of a line. -/
def constructStep (grammar : Grammar) (text : List Char) : ConstructStep :=
  match earliestOpen? grammar.constructs text with
  | none => .outside
  | some (start, number) =>
      match grammar.construct? number with
      | none => .outside
      | some construct =>
          let bodyStart := start + construct.opening.length
          match Text.indexOf? construct.closing (text.drop bodyStart) with
          | none => .unclosed start number construct.tokenClass
          | some offset =>
              .closed start (bodyStart + offset + construct.closing.length)
                construct.tokenClass

end Highlight

/--
Go on with a scan for constructs at `column`, outside of them: `text` is what is left of
the line, and `painted` are the paints so far, the last one first.  Gives the paints of
the line in their order, and the construct left open at its end.

A construct that takes no characters is found at the same place again and again.  Such a
scan does not end, and has no result.
-/
def Grammar.scanOn?
    (grammar : Grammar)
    (painted : List Paint)
    (column : Nat)
    (text : List Char) : Option (List Paint × CarryState) :=
  match Highlight.constructStep grammar text with
  | .outside => some (painted.reverse, none)
  | .unclosed start number tokenClass =>
      let last : Paint := ⟨column + start, column + text.length, tokenClass⟩
      some ((last :: painted).reverse, some number)
  | .closed start stop tokenClass =>
      let painted :=
        if start < stop then
          ⟨column + start, column + stop, tokenClass⟩ :: painted
        else
          painted
      grammar |>.scanOn? painted (column + stop) (text.drop stop)
partial_fixpoint

namespace Highlight

/-- Scan a line for constructs, given the one that is open in front of it. -/
def scanConstructs?
    (grammar : Grammar)
    (text : List Char)
    (incoming : CarryState) : Option (List Paint × CarryState) :=
  match incoming.bind grammar.construct? with
  | none => grammar.scanOn? [] 0 text
  | some construct =>
      match Text.indexOf? construct.closing text with
      | none => some ([⟨0, text.length, construct.tokenClass⟩], incoming)
      | some offset =>
          let stop := offset + construct.closing.length
          grammar.scanOn? [⟨0, stop, construct.tokenClass⟩] stop (text.drop stop)

/--
The paints of the constructs of a line, and the construct left open at its end.  Of a
scan that does not end nothing can be said; it counts as one that finds nothing.
-/
def scanConstructs
    (grammar : Grammar)
    (text : List Char)
    (incoming : CarryState) : List Paint × CarryState :=
  (scanConstructs? grammar text incoming).getD ([], none)

/-- The construct left open at the end of a line. -/
def carryAfter (grammar : Grammar) (text : List Char) (incoming : CarryState) : CarryState :=
  (scanConstructs grammar text incoming).2

/-- The paints of one rule on a line. -/
def rulePaints (text : List Char) (rule : GrammarRule) : List Paint :=
  (rule.pattern.allMatches text).filterMap fun found =>
    (found.group? rule.group).bind fun piece =>
      if piece.start < piece.stop then
        some ⟨piece.start, piece.stop, rule.tokenClass⟩
      else
        none

/-- All paints on a line, in the order in which they are laid on. -/
def linePaints (grammar : Grammar) (text : List Char) (incoming : CarryState) : List Paint :=
  grammar.rules.flatMap (rulePaints text) ++ (scanConstructs grammar text incoming).1

/-- A paint by the bytes of its bounds, as it is found. -/
def inBytes (text : List Char) (paint : Paint) : Paint :=
  { paint with
    start := Text.bytesBefore text paint.start
    stop := Text.bytesBefore text paint.stop }

/-- A paint by columns again, which a table gives for its bytes. -/
def inColumns (table : List Nat) (paint : Paint) : Paint :=
  { paint with
    start := table[paint.start]?.getD 0
    stop := table[paint.stop]?.getD 0 }

/-- Lay a paint on the columns of a line. -/
def layOn (classes : List (Option TokenClass)) (paint : Paint) : List (Option TokenClass) :=
  classes.mapIdx fun column painted =>
    if paint.start ≤ column ∧ column < paint.stop then some paint.tokenClass else painted

/-- The class of each column of a line, where it has one. -/
def columnClasses (length : Nat) (paints : List Paint) : List (Option TokenClass) :=
  paints.foldl layOn (List.replicate length none)

/-- The maximal runs of columns of one class; plain columns belong to none. -/
def spansFrom (column : Nat) : List (Option TokenClass) → List Paint
  | [] => []
  | none :: rest => spansFrom (column + 1) rest
  | some .plain :: rest => spansFrom (column + 1) rest
  | some tokenClass :: rest =>
      match spansFrom (column + 1) rest with
      | [] => [⟨column, column + 1, tokenClass⟩]
      | span :: spans =>
          if span.start = column + 1 ∧ span.tokenClass = tokenClass then
            { span with start := column } :: spans
          else
            ⟨column, column + 1, tokenClass⟩ :: span :: spans

/-- The highlighted spans of a line. -/
def lineSpans (grammar : Grammar) (text : List Char) (incoming : CarryState) : List Paint :=
  let table := Text.charIndexMap text
  let found := (linePaints grammar text incoming).map (inBytes text)
  spansFrom 0 (columnClasses text.length (found.map (inColumns table)))

end Highlight

end ChordEditor
