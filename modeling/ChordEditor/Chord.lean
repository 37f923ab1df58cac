import ChordEditor.KeyEvent

namespace ChordEditor

/-!
# Chords

A chord is a sequence of one to five fragments, each of which some key presses match.
It is written as its keys in a row, such as `dw` or `ysiw?`, where a question mark
stands for any key that types; or as `ctrl+` and a single key.
-/

/-- The most fragments of a chord. -/
def maxChordLength : Nat := 5

/-- One position of a chord. -/
inductive Fragment where
  /-- A key that types a character; letters are told apart by case. -/
  | key (c : Char)
  /-- A key with control held. -/
  | ctrl (c : Char)
  /-- Any key that types a character, which is captured. -/
  | any
  deriving Repr, DecidableEq

namespace Fragment

/-- The character that a press stands for, if the press matches the fragment. -/
def match? (fragment : Fragment) (event : KeyEvent) : Option Char :=
  let held := event.modifiers
  match fragment with
  | .any => event.typedChar?
  | .ctrl c =>
      match event.key with
      | .char pressed =>
          if held.ctrl && !held.alt && pressed.toLower == c then some c else none
      | _ => none
  | .key c =>
      if Text.isAlphabetic c then
        match event.key with
        | .char pressed =>
            if !held.ctrl && !held.alt && Text.lowerForm pressed == Text.lowerForm c &&
                held.shift == Text.isUppercase c then
              some c
            else
              none
        | _ => none
      else if event.typedChar? = some c then
        some c
      else
        none

/-- The fragment as it is written in a chord. -/
def render : Fragment → String
  | .key c => String.singleton c
  | .ctrl c => "ctrl+" ++ String.singleton c
  | .any => "?"

/-- What kind of fragment it is, with its character. -/
def description : Fragment → String
  | .key c => "Key(" ++ Text.charLiteral c ++ ")"
  | .ctrl c => "Ctrl(" ++ Text.charLiteral c ++ ")"
  | .any => "Any"

/-- The fragment that a character writes. -/
def ofChar (c : Char) : Fragment :=
  if c = '?' then .any else .key c

end Fragment

/-- A sequence of fragments that is neither empty nor too long. -/
structure Chord where
  fragments : List Fragment
  fragments_ne_nil : fragments ≠ []
  length_le : fragments.length ≤ maxChordLength
  deriving DecidableEq

namespace Chord

/-- The number of fragments. -/
def length (chord : Chord) : Nat :=
  chord.fragments.length

/-- The chord as it is written. -/
def render (chord : Chord) : String :=
  String.join (chord.fragments.map Fragment.render)

/-- The chord of some fragments; `text` is how the chord was written. -/
def ofFragments (fragments : List Fragment) (text : String) : Except KeyError Chord :=
  if empty : fragments = [] then
    .error .emptyChord
  else if short : fragments.length ≤ maxChordLength then
    .ok ⟨fragments, empty, short⟩
  else
    .error (.tooLong text)

/-- What stands in front of a key pressed with control. -/
def ctrlMark : List Char := "ctrl+".toList

/-- Read a chord. -/
def read (text : String) : Except KeyError Chord :=
  let chars := text.toList
  if ctrlMark.isPrefixOf chars then
    match chars.drop ctrlMark.length with
    | [c] => .ok ⟨[.ctrl c.toLower], by simp, by simp [maxChordLength]⟩
    | _ => .error (.unknownKey text)
  else
    ofFragments (chars.map Fragment.ofChar) text

end Chord

end ChordEditor
