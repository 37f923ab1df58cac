import ChordEditor.Buffer.Basic
import ChordEditor.Motion
import ChordEditor.Text.Occurrences

namespace ChordEditor

/-!
# Search

A search has a term that is taken literally, and the places where it occurs in a
buffer.  Going to the next or the previous match starts from the match nearest to the
cursor and wraps around at the ends of the text.
-/

/-- A term, and whether it only occurs as a whole word. -/
structure SearchTerm where
  text : List Char
  wholeWord : Bool
  deriving Repr, DecidableEq

namespace SearchTerm

/-- The spans where a term occurs in a text. -/
def spansIn (term : SearchTerm) (text : List Char) : List Span :=
  let places :=
    if term.wholeWord then
      Text.wordOccurrences term.text text
    else
      Text.occurrences term.text text
  places.map fun place => ⟨place, place + term.text.length⟩

end SearchTerm

/-- The state of searching in a session. -/
structure SearchState where
  /-- The term searched for last, kept when its matches are dropped. -/
  term : Option SearchTerm := none
  /-- Whether matches are kept up to date. -/
  active : Bool := false
  matched : List Span := []
  /-- The version of the buffer that the matches were found in. -/
  version : Nat := 0
  deriving Repr, DecidableEq

namespace SearchState

/-- Drop the matches but keep the term. -/
def clear (state : SearchState) : SearchState :=
  { state with active := false, matched := [] }

/-- Find the matches anew, if a search is active. -/
def refresh (state : SearchState) (buffer : Buffer) : SearchState :=
  match state.term with
  | some term =>
      if state.active then
        { state with matched := term.spansIn buffer.text, version := buffer.version }
      else
        state
  | none => state

/-- Search for a term; an empty one drops the matches. -/
def set
    (state : SearchState)
    (text : List Char)
    (wholeWord : Bool)
    (buffer : Buffer) : SearchState :=
  if text.isEmpty then
    state.clear
  else
    { state with term := some ⟨text, wholeWord⟩, active := true }.refresh buffer

/-- Whether the buffer has changed since the matches were found. -/
def isStale (state : SearchState) (buffer : Buffer) : Bool :=
  state.active && state.version != buffer.version

/-- Take up a dropped search again. -/
def resume (state : SearchState) (buffer : Buffer) : SearchState :=
  match state.term with
  | some term => if state.active then state else state.set term.text term.wholeWord buffer
  | none => state

/-- How far two places are apart. -/
def distance (first second : Nat) : Nat :=
  (first - second) + (second - first)

/-- The index of the match that starts nearest to a place; of two as near, the earlier one. -/
def nearestIndex? (state : SearchState) (place : Nat) : Option Nat :=
  (state.matched.zipIdx.foldl
    (fun nearest (span, index) =>
      match nearest with
      | none => some (distance span.start place, index)
      | some (apart, _) =>
          if distance span.start place < apart then
            some (distance span.start place, index)
          else
            nearest)
    none).map Prod.snd

/-- The start of the match with an index. -/
def startOf? (state : SearchState) (index : Nat) : Option Nat :=
  (state.matched[index]?).map Span.start

/-- The start of the match nearest to a place. -/
def nearest? (state : SearchState) (place : Nat) : Option Nat :=
  (state.nearestIndex? place).bind state.startOf?

/-- Steps still to go from the nearest match; the first one may be done by going there. -/
def stepsLeft (count : Nat) (nearestCounts : Bool) : Nat :=
  if nearestCounts then max count 1 - 1 else max count 1

/-- The start of the `count`-th match behind a place, wrapping around. -/
def next? (state : SearchState) (place count : Nat) : Option Nat := do
  let size := state.matched.length
  let index ← state.nearestIndex? place
  let start ← state.startOf? index
  let steps := stepsLeft count (start > place)
  state.startOf? ((index + steps % size) % size)

/-- The start of the `count`-th match before a place, wrapping around. -/
def previous? (state : SearchState) (place count : Nat) : Option Nat := do
  let size := state.matched.length
  let index ← state.nearestIndex? place
  let start ← state.startOf? index
  let steps := stepsLeft count (start < place)
  state.startOf? ((index + size - steps % size) % size)

end SearchState

end ChordEditor
