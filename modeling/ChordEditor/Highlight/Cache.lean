import ChordEditor.Buffer.Basic
import ChordEditor.Highlight.Line

namespace ChordEditor

/-!
# The highlight cache

The cache holds for every line the construct that is open at its end.  After an edit
only the lines from the first one touched are gone through again, until one of them
behind the last one touched ends as it did before.
-/

/-- The construct open at the end of each line. -/
structure HighlightCache where
  states : List CarryState := []
  deriving Repr, DecidableEq

namespace HighlightCache

/-- Whether nothing is cached. -/
def isEmpty (cache : HighlightCache) : Bool :=
  cache.states.isEmpty

/-- The construct open at the end of a line. -/
def stateAfter (cache : HighlightCache) (line : Nat) : CarryState :=
  (cache.states[line]?).join

/-- The construct open at the start of a line. -/
def stateBefore (cache : HighlightCache) (line : Nat) : CarryState :=
  if line = 0 then none else cache.stateAfter (line - 1)

/-- The constructs open at the ends of lines, given the one open before them. -/
def statesOf (grammar : Grammar) : CarryState → List (List Char) → List CarryState
  | _, [] => []
  | incoming, text :: texts =>
      let outgoing := Highlight.carryAfter grammar text incoming
      outgoing :: statesOf grammar outgoing texts

/-- Go through all lines. -/
def rebuild (grammar : Grammar) (buffer : Buffer) : LineRange × HighlightCache :=
  (⟨0, buffer.lastLine⟩, ⟨statesOf grammar none buffer.lineTexts⟩)

/--
The states of a text that has `count` lines now, still to be settled: states are put
in, or taken out, at the first line touched, so that those behind stay with their line.
-/
def realign (states : List CarryState) (first count : Nat) : List CarryState :=
  let size := states.length
  let moved :=
    if count > size then
      states.take first ++ List.replicate (count - size) none ++ states.drop first
    else
      let removed := min (size - count) (size - first)
      states.take first ++ states.drop (first + removed)
  moved.take count ++ List.replicate (count - moved.length) none

/--
Go through lines, from `line` on, until one at or behind `last` ends as it did before.
Gives the last line gone through, and the states.
-/
def settle
    (grammar : Grammar)
    (last : Nat) : Nat → CarryState → List (List Char) → List CarryState →
      Nat × List CarryState
  | line, incoming, text :: texts, old :: olds =>
      let outgoing := Highlight.carryAfter grammar text incoming
      if (line ≥ last ∧ old = outgoing) ∨ texts = [] then
        (line, outgoing :: olds)
      else
        let (stop, states) := settle grammar last (line + 1) outgoing texts olds
        (stop, outgoing :: states)
  | line, _, _, states => (line, states)

/-- Go through the lines that an edit touched, and on as far as it matters. -/
def update
    (cache : HighlightCache)
    (grammar : Grammar)
    (buffer : Buffer)
    (dirty : LineRange) : LineRange × HighlightCache :=
  if cache.isEmpty then
    rebuild grammar buffer
  else
    let count := buffer.lineCount
    let first := min dirty.first (count - 1)
    let last := max (min dirty.last (count - 1)) first
    let aligned : HighlightCache := ⟨realign cache.states first count⟩
    let (stop, settled) :=
      settle grammar last first (aligned.stateBefore first)
        (buffer.lineTexts.drop first) (aligned.states.drop first)
    (⟨first, stop⟩, ⟨aligned.states.take first ++ settled⟩)

end HighlightCache

end ChordEditor
