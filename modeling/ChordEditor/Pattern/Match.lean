import ChordEditor.Pattern.Basic
import ChordEditor.Text.Occurrences

namespace ChordEditor

/-!
# Matching patterns

`Pattern.ends` lists all ways in which a pattern matches at a place of a text, in
order of preference, as the places where they end together with the groups they
passed.  The preferred match of all is the first way at the first place that has one.

A repetition goes on only after a turn that took a character.
-/

/-- The piece of text between two places that a group matched. -/
structure Captured where
  number : Nat
  start : Nat
  stop : Nat
  deriving Repr, DecidableEq

/-- A place of a text on the way through a pattern. -/
structure MatchPlace where
  index : Nat
  previous : Option Char
  ahead : List Char
  /-- The groups passed on the way, the last one first. -/
  captured : List Captured := []
  deriving Repr, DecidableEq

namespace MatchPlace

/-- The place behind the next character, if that belongs to a set. -/
def advance? (place : MatchPlace) (chars : CharSet) : Option MatchPlace :=
  match place.ahead with
  | [] => none
  | c :: rest =>
      if chars.contains c then
        some
          { place with
            index := place.index + 1
            previous := some c
            ahead := rest }
      else
        none

/-- Whether a place meets a condition. -/
def meets (place : MatchPlace) : Anchor → Bool
  | .textStart => place.previous.isNone
  | .textEnd => place.ahead.isEmpty
  | .wordBoundary => Text.isWordBoundary place.previous place.ahead.head?
  | .insideOrOutside => !Text.isWordBoundary place.previous place.ahead.head?

/-- Whether fewer characters are ahead than at another place. -/
def isBehind (place other : MatchPlace) : Prop :=
  place.ahead.length < other.ahead.length

instance (place other : MatchPlace) : Decidable (place.isBehind other) :=
  inferInstanceAs (Decidable (_ < _))

end MatchPlace

namespace Pattern

/-- Ends of further turns of a repetition whose turns end as `turn` says. -/
def furtherTurns
    (greedy : Bool)
    (turn : MatchPlace → List MatchPlace)
    (place : MatchPlace) : List MatchPlace :=
  let again :=
    (turn place).flatMap fun next =>
      if next.isBehind place then furtherTurns greedy turn next else []
  if greedy then again ++ [place] else place :: again
termination_by place.ahead.length
decreasing_by assumption

/-- Ends of all ways to match a pattern at a place, the preferred ones first. -/
def ends : Pattern → MatchPlace → List MatchPlace
  | .empty, place => [place]
  | .oneOf chars, place => (place.advance? chars).toList
  | .assert anchor, place => if place.meets anchor then [place] else []
  | .seq first second, place => (first.ends place).flatMap second.ends
  | .alt first second, place => first.ends place ++ second.ends place
  | .repeated greedy body, place =>
      (body.ends place).flatMap fun next =>
        if next.isBehind place then furtherTurns greedy body.ends next else [next]
  | .group number body, place =>
      (body.ends place).map fun next =>
        { next with
          captured := ⟨number, place.index, next.index⟩ :: next.captured }

end Pattern

/-- A piece of text that a pattern matches, with the pieces of its groups. -/
structure PatternMatch where
  start : Nat
  stop : Nat
  captured : List Captured
  deriving Repr, DecidableEq

namespace PatternMatch

/-- The piece of a group; group zero is the whole match. -/
def group? (found : PatternMatch) (number : Nat) : Option Captured :=
  if number = 0 then
    some ⟨0, found.start, found.stop⟩
  else
    found.captured.find? fun captured => captured.number = number

end PatternMatch

namespace Pattern

/-- The preferred match at a place. -/
def matchAt?
    (pattern : Pattern)
    (index : Nat)
    (previous : Option Char)
    (ahead : List Char) : Option PatternMatch :=
  (pattern.ends { index, previous, ahead }).head?.map fun final =>
    ⟨index, final.index, final.captured⟩

/--
The matches in the rest of a text that are not empty, from left to right and without
overlap.  `skip` characters belong to the last match.
-/
def matchesFrom
    (pattern : Pattern) : Nat → Option Char → List Char → Nat → List PatternMatch
  | _, _, [], _ => []
  | index, _, c :: rest, skip + 1 => pattern.matchesFrom (index + 1) (some c) rest skip
  | index, previous, c :: rest, 0 =>
      match pattern.matchAt? index previous (c :: rest) with
      | none => pattern.matchesFrom (index + 1) (some c) rest 0
      | some found =>
          if found.stop > index then
            found :: pattern.matchesFrom (index + 1) (some c) rest (found.stop - index - 1)
          else
            pattern.matchesFrom (index + 1) (some c) rest 0

/-- The matches in a text that are not empty, from left to right and without overlap. -/
def allMatches (pattern : Pattern) (text : List Char) : List PatternMatch :=
  pattern.matchesFrom 0 none text 0

end Pattern

end ChordEditor
