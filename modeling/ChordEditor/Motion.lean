import ChordEditor.Buffer.Basic

namespace ChordEditor

/-!
# Motions

A motion takes a place of a buffer to another one.  Motions never fail: they stop at
the bounds of the line or of the text.  An operator acts on the range between the two
places, or on whole lines for the motions that are linewise.

Motions calculate with numbers of any size.  In machine words a sum that is none stops
the program, and then there is no place to arrive at (`Motion.target?`).
-/

/-- The ways to move. -/
inductive Motion where
  | left
  | right
  | up
  | down
  /-- The first column of the line. -/
  | lineStart
  /-- Behind the last character of the line. -/
  | lineEnd
  /-- The last character of the line. -/
  | lastChar
  | firstNonBlank
  | wordForward
  | wordEnd
  | wordBackward
  /-- The captured character on the same line. -/
  | findChar (backward : Bool)
  | documentStart
  | documentEnd
  | jumpDown
  | jumpUp
  deriving Repr, DecidableEq

/-- What a motion may need besides the buffer and the place. -/
structure MotionArgs where
  count : Nat := 1
  /-- The character to find. -/
  literal : Option Char := none
  /-- The line asked for, counted from one. -/
  line : Option Nat := none
  /-- The column that vertical motions keep. -/
  column : Option Nat := none
  /-- Lines of one jump up or down. -/
  jumpLines : Nat := 10
  deriving Repr, DecidableEq

namespace Motion

/-- Whether operators act on whole lines. -/
def isLinewise : Motion → Bool
  | .up | .down | .documentStart | .documentEnd | .jumpDown | .jumpUp => true
  | _ => false

/-- Whether operators include the character that the motion arrives at. -/
def isInclusive : Motion → Bool
  | .wordEnd | .lastChar | .findChar false => true
  | _ => false

/-- Whether the motion goes up or down and keeps its column. -/
def isVertical : Motion → Bool
  | .up | .down | .jumpDown | .jumpUp => true
  | _ => false

/-- The length of the run at the start of a text that belongs to a class. -/
def runLength (charClass : Text.CharClass) (text : List Char) : Nat :=
  (text.takeWhile fun c => Text.CharClass.of c = charClass).length

/-- The start of the next word. -/
def wordForwardFrom (text : List Char) (place : Nat) : Nat :=
  match text.drop place with
  | [] => text.length
  | c :: rest =>
      let ahead := c :: rest
      let word :=
        if Text.CharClass.of c = .whitespace then 0 else runLength (.of c) ahead
      place + word + runLength .whitespace (ahead.drop word)

/-- The end of the word, or of the next one when the place is at an end already. -/
def wordEndFrom (text : List Char) (place : Nat) : Nat :=
  let ahead := text.drop (place + 1)
  let gap := runLength .whitespace ahead
  match ahead.drop gap with
  | [] => text.length - 1
  | c :: rest => place + gap + runLength (.of c) (c :: rest)

/-- The start of the word, or of the one before when the place is at a start already. -/
def wordBackwardFrom (text : List Char) (place : Nat) : Nat :=
  match (text.take place).reverse.dropWhile fun c => Text.CharClass.of c = .whitespace with
  | [] => 0
  | c :: rest => rest.length + 1 - runLength (.of c) (c :: rest)

/-- The columns of a line that hold a character. -/
def columnsOf (target : Char) (chars : List Char) : List Nat :=
  (List.range chars.length).filter fun column => chars[column]? = some target

/-- The column of the `count`-th occurrence of a character behind, or before, a column. -/
def findInLine?
    (line : List Char)
    (column : Nat)
    (target : Char)
    (count : Nat)
    (backward : Bool) : Option Nat :=
  if backward then
    ((columnsOf target line).filter (· < column)).reverse[count - 1]?
  else
    ((columnsOf target line).filter (· > column))[count - 1]?

/-- Repeat a step. -/
def iterate (step : Nat → Nat) : Nat → Nat → Nat
  | 0, place => place
  | count + 1, place => iterate step count (step place)

/-- Where the motion arrives from a place. -/
def target
    (motion : Motion)
    (buffer : Buffer)
    (place : Nat)
    (args : MotionArgs) : Nat :=
  let place := buffer.clamp place
  let count := max args.count 1
  let line := buffer.lineOf place
  let column := buffer.columnOf place
  let kept := args.column.getD column
  match motion with
  | .left => place - min count column
  | .right => min (place + count) (buffer.lineEnd line)
  | .up => buffer.offsetAt (line - count) kept
  | .down => buffer.offsetAt (line + count) kept
  | .jumpUp => buffer.offsetAt (line - count * args.jumpLines) kept
  | .jumpDown => buffer.offsetAt (line + count * args.jumpLines) kept
  | .lineStart => buffer.lineStart line
  | .lineEnd => buffer.lineEnd line
  | .lastChar => max (buffer.lineEnd line - 1) (buffer.lineStart line)
  | .firstNonBlank => buffer.firstNonBlank line
  | .wordForward => iterate (wordForwardFrom buffer.text) count place
  | .wordEnd => iterate (wordEndFrom buffer.text) count place
  | .wordBackward => iterate (wordBackwardFrom buffer.text) count place
  | .findChar backward =>
      match args.literal with
      | none => place
      | some wanted =>
          match findInLine? (buffer.lineText line) column wanted count backward with
          | none => place
          | some found => buffer.lineStart line + found
  | .documentStart =>
      match args.line with
      | none => 0
      | some number => buffer.firstNonBlank (number - 1)
  | .documentEnd =>
      match args.line with
      | none => buffer.length
      | some number => buffer.firstNonBlank (number - 1)

/--
Whether the motion makes a sum that is no machine word.  To the right the count is added to
the place; what the other motions add up stops at the largest word.
-/
def overflows
    (motion : Motion)
    (buffer : Buffer)
    (place : Nat)
    (args : MotionArgs) : Bool :=
  motion = .right ∧ Text.maxWord64 < buffer.clamp place + max args.count 1

/-- Where the motion arrives in machine words, if it does. -/
def target?
    (motion : Motion)
    (buffer : Buffer)
    (place : Nat)
    (args : MotionArgs) : Option Nat :=
  if motion.overflows buffer place args then none else some (motion.target buffer place args)

end Motion

/-- The places from `start` up to `stop`. -/
structure Span where
  start : Nat
  stop : Nat
  deriving Repr, DecidableEq

namespace Span

/-- Whether the span holds no place. -/
def isEmpty (span : Span) : Bool :=
  span.start ≥ span.stop

end Span

/--
The span of the lines from `first` to `last` with one line break: the one behind them,
or the one before them when they are the last lines.
-/
def Buffer.lineSpan (buffer : Buffer) (first last : Nat) : Span :=
  let first := min first buffer.lastLine
  let last := min last buffer.lastLine
  if last < buffer.lastLine then
    ⟨buffer.lineStart first, buffer.lineStart (last + 1)⟩
  else if first > 0 then
    ⟨buffer.lineEnd (first - 1), buffer.length⟩
  else
    ⟨0, buffer.length⟩

namespace Motion

/-- The first and the last line between a place and where the motion arrives. -/
def linesCovered
    (motion : Motion)
    (buffer : Buffer)
    (place : Nat)
    (args : MotionArgs) : LineRange :=
  let arrival := motion.target buffer place args
  ⟨buffer.lineOf (min place arrival), buffer.lineOf (max place arrival)⟩

/--
Where the span of an operator ends, given where the motion arrives.  Inclusive motions
take one character more.  A word motion that crosses a line break stops before it.
-/
def operatorEnd
    (motion : Motion)
    (buffer : Buffer)
    (place arrival : Nat) : Nat :=
  let stop :=
    if motion.isInclusive ∧ arrival ≥ place ∧ arrival < buffer.length then
      arrival + 1
    else
      arrival
  if motion = .wordForward ∧ buffer.lineOf stop > buffer.lineOf place then
    max (buffer.lineEnd (buffer.lineOf stop - 1)) place
  else
    stop

/-- The span that an operator covers. -/
def operatorSpan
    (motion : Motion)
    (buffer : Buffer)
    (place : Nat)
    (args : MotionArgs) : Span :=
  let place := buffer.clamp place
  if motion.isLinewise then
    let covered := motion.linesCovered buffer place args
    buffer.lineSpan covered.first covered.last
  else
    let stop := motion.operatorEnd buffer place (motion.target buffer place args)
    ⟨min place stop, max place stop⟩

end Motion

namespace Buffer

/-! ## The word at a place -/

/-- Whether a text has a word character at a place. -/
def hasWordCharAt (text : List Char) (place : Nat) : Bool :=
  text[place]?.any Text.isWordChar

/-- A place of the word at a place, if there is a word. -/
def wordAnchor? (text : List Char) (place : Nat) : Option Nat :=
  if hasWordCharAt text place then
    some place
  else if place > 0 ∧ hasWordCharAt text (place - 1) then
    some (place - 1)
  else
    none

/-- The span of the word at a place. -/
def wordSpan? (buffer : Buffer) (place : Nat) : Option Span :=
  (wordAnchor? buffer.text place).map fun anchor =>
    { start := anchor - ((buffer.text.take anchor).reverse.takeWhile Text.isWordChar).length
      stop := anchor + ((buffer.text.drop anchor).takeWhile Text.isWordChar).length }

/-- The text of a span. -/
def spanText (buffer : Buffer) (span : Span) : List Char :=
  buffer.slice span.start span.stop

end Buffer

end ChordEditor
