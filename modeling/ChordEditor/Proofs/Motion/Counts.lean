import ChordEditor.Proofs.Motion.WithinLine
import ChordEditor.Proofs.Motion.WordPlaces

namespace ChordEditor

/-!
# Counts of motions

A vertical motion goes so many lines up or down and stops at the first and the last line.
For the motions that a count repeats, going on with a second count is the same as having
asked for the sum of both (`Motion.target_add`).  Where LF alone ends a line no motion is
thrown off its line in between, and operators take the lines up to the one that the count,
or the line asked for, leads to (`Motion.linesCovered_of_leads`).
-/

/-- The line that lies so many lines further down, as far as there are lines. -/
def Buffer.lineBelow
    (buffer : Buffer)
    (line : Nat)
    (lines : Int) : Nat :=
  (min (line + lines) buffer.lastLine).toNat

theorem Buffer.lineBelow_le_lastLine
    (buffer : Buffer)
    (line : Nat)
    (lines : Int) :
    buffer.lineBelow line lines ≤ buffer.lastLine := by
  unfold Buffer.lineBelow
  omega

/-- Going on in the same direction adds up, although the lines end in between. -/
theorem Buffer.lineBelow_add
    {buffer : Buffer}
    {line : Nat}
    {first second : Int}
    (isLine : line ≤ buffer.lastLine)
    (sameWay : 0 ≤ first ∧ 0 ≤ second ∨ first ≤ 0 ∧ second ≤ 0) :
    buffer.lineBelow (buffer.lineBelow line first) second =
      buffer.lineBelow line (first + second) := by
  unfold Buffer.lineBelow
  omega

namespace Motion

/-- How many lines a motion goes down at a time; the number is negative if it goes up. -/
def linesAtOnce
    (motion : Motion)
    (args : MotionArgs) : Int :=
  match motion with
  | .up => -1
  | .down => 1
  | .jumpUp => -args.jumpLines
  | .jumpDown => args.jumpLines
  | _ => 0

/-- How many lines a motion goes down for its count. -/
def linesDown
    (motion : Motion)
    (args : MotionArgs) : Int :=
  motion.linesAtOnce args * (max args.count 1 : Nat)

/-- The motions that a count repeats. -/
def isRepeated : Motion → Bool
  | .left | .right | .up | .down | .jumpUp | .jumpDown => true
  | .wordForward | .wordEnd | .wordBackward => true
  | _ => false

section Counts

variable
  {motion : Motion}
  {buffer : Buffer}
  {place : Nat}
  {args : MotionArgs}

/-- A vertical motion goes to its column, so many lines further down. -/
theorem target_of_column
    {column : Nat}
    (vertical : motion.isVertical = true)
    (keeps : args.column = some column)
    (place : Nat) :
    motion.target buffer place args =
      buffer.offsetAt (buffer.lineBelow (buffer.lineOf place) (motion.linesDown args)) column := by
  have isLine := buffer.lineOf_le_lastLine place
  have jumped :
      (args.jumpLines : Int) * (max args.count 1 : Nat) =
        (max args.count 1 * args.jumpLines : Nat) := by
    rw [Int.natCast_mul, Int.mul_comm]
  have aimed :
      motion.aimedLine buffer (buffer.clamp place) args =
        buffer.lineBelow (buffer.lineOf place) (motion.linesDown args) := by
    unfold aimedLine linesDown linesAtOnce Buffer.lineBelow
    rw [buffer.lineOf_clamp]
    cases motion with
    | up | down | jumpDown =>
        dsimp only
        omega
    | jumpUp =>
        dsimp only
        rw [Int.neg_mul]
        omega
    | _ =>
        contradiction
  rw [← target_clamp, target_of_isVertical vertical (buffer.clamp_le place), aimed, keeps,
    Option.getD_some]

variable {first second : Nat}

/-- Two counts of a motion lead the same way, as many lines as their sum. -/
theorem lineBelow_linesDown_add
    {line : Nat}
    (isLine : line ≤ buffer.lastLine)
    (someFirst : 1 ≤ first)
    (someSecond : 1 ≤ second) :
    buffer.lineBelow (buffer.lineBelow line (motion.linesDown { args with count := first }))
        (motion.linesDown { args with count := second }) =
      buffer.lineBelow line (motion.linesDown { args with count := first + second }) := by
  have sum : max (first + second) 1 = max first 1 + max second 1 := by
    omega
  have sameWay :
      0 ≤ motion.linesDown { args with count := first } ∧
          0 ≤ motion.linesDown { args with count := second } ∨
        motion.linesDown { args with count := first } ≤ 0 ∧
          motion.linesDown { args with count := second } ≤ 0 := by
    rcases Int.le_total 0 (motion.linesAtOnce args) with down | up
    · exact
        .inl
          ⟨Int.mul_nonneg down (Int.natCast_nonneg _),
            Int.mul_nonneg down (Int.natCast_nonneg _)⟩
    · exact
        .inr
          ⟨Int.mul_nonpos_of_nonpos_of_nonneg up (Int.natCast_nonneg _),
            Int.mul_nonpos_of_nonpos_of_nonneg up (Int.natCast_nonneg _)⟩
  rw [Buffer.lineBelow_add isLine sameWay]
  unfold linesDown
  dsimp only
  rw [sum, Int.natCast_add, Int.mul_add]
  rfl

/-- To the left the counts add up up to the start of the line. -/
theorem target_left_add
    (someFirst : 1 ≤ first)
    (someSecond : 1 ≤ second) :
    left.target buffer (left.target buffer place { args with count := first })
        { args with count := second } =
      left.target buffer place { args with count := first + second } := by
  have inText := buffer.clamp_le place
  have starts := buffer.lineStart_lineOf_le inText
  have placed := Buffer.lineStart_add_columnOf inText
  have arrives (count : Nat) (someCount : 1 ≤ count) (place : Nat) :
      left.target buffer place { args with count } =
        buffer.clamp place - min count (buffer.columnOf (buffer.clamp place)) := by
    simp only [target, Nat.max_eq_left someCount]
  rw [arrives second someSecond, arrives first someFirst,
    arrives (first + second) (Nat.le_add_right_of_le someFirst)]
  generalize buffer.clamp place = place at *
  have sameLine :
      buffer.lineOf (place - min first (buffer.columnOf place)) = buffer.lineOf place :=
    Buffer.lineOf_of_between inText (by omega) (Nat.sub_le _ _)
  have inside : place - min first (buffer.columnOf place) ≤ buffer.length := by
    omega
  have placedThere := Buffer.lineStart_add_columnOf inside
  rw [sameLine] at placedThere
  rw [Buffer.clamp_of_le inside]
  omega

/-- A motion that repeats a step goes on with it. -/
theorem target_add_of_iterate
    {step : Nat → Nat}
    (repeats :
      ∀ place (args : MotionArgs),
        motion.target buffer place args =
          iterate step (max args.count 1) (buffer.clamp place))
    (someFirst : 1 ≤ first)
    (someSecond : 1 ≤ second) :
    motion.target buffer (motion.target buffer place { args with count := first })
        { args with count := second } =
      motion.target buffer place { args with count := first + second } := by
  have sum : max (first + second) 1 = max second 1 + max first 1 := by
    omega
  have arrives (count place : Nat) :
      motion.target buffer place { args with count } =
        (motion.once buffer args)^[max count 1] place :=
    target_eq_iterate_once repeats
  rw [arrives, arrives, arrives, sum, Function.iterate_add_apply]

section BrokenByNewlines

variable (onlyNewlines : Text.BrokenByNewlines buffer.text)

include onlyNewlines

/-- To the right the counts add up up to the end of the line. -/
theorem target_right_add
    (someFirst : 1 ≤ first)
    (someSecond : 1 ≤ second) :
    right.target buffer (right.target buffer place { args with count := first })
        { args with count := second } =
      right.target buffer place { args with count := first + second } := by
  have inText := buffer.clamp_le place
  have isLine := buffer.lineOf_le_lastLine (buffer.clamp place)
  have starts := buffer.lineStart_lineOf_le inText
  have stops := Buffer.le_lineEnd_lineOf onlyNewlines inText
  have ends := buffer.lineEnd_le (buffer.lineOf (buffer.clamp place))
  have arrives (count : Nat) (someCount : 1 ≤ count) (place : Nat) :
      right.target buffer place { args with count } =
        min (buffer.clamp place + count)
          (buffer.lineEnd (buffer.lineOf (buffer.clamp place))) := by
    simp only [target, Nat.max_eq_left someCount]
  rw [arrives second someSecond, arrives first someFirst,
    arrives (first + second) (Nat.le_add_right_of_le someFirst)]
  generalize buffer.clamp place = place at *
  have inside :
      min (place + first) (buffer.lineEnd (buffer.lineOf place)) ≤ buffer.length := by
    omega
  have sameLine :
      buffer.lineOf (min (place + first) (buffer.lineEnd (buffer.lineOf place))) =
        buffer.lineOf place :=
    Buffer.lineOf_of_onLine onlyNewlines isLine (by omega) (Nat.min_le_right _ _)
  rw [Buffer.clamp_of_le inside, sameLine]
  omega

/-- A vertical motion that keeps a column does not lose it on the line in between. -/
theorem target_add_of_column
    {column : Nat}
    (vertical : motion.isVertical = true)
    (keeps : args.column = some column)
    (someFirst : 1 ≤ first)
    (someSecond : 1 ≤ second) :
    motion.target buffer (motion.target buffer place { args with count := first })
        { args with count := second } =
      motion.target buffer place { args with count := first + second } := by
  have isLine := buffer.lineOf_le_lastLine place
  have arrives (count place : Nat) :
      motion.target buffer place { args with count } =
        buffer.offsetAt
          (buffer.lineBelow (buffer.lineOf place) (motion.linesDown { args with count }))
          column :=
    @target_of_column _ _ { args with count } _ vertical keeps place
  rw [arrives, arrives, arrives, Buffer.lineOf_offsetAt onlyNewlines,
    Nat.min_eq_left (buffer.lineBelow_le_lastLine _ _),
    lineBelow_linesDown_add isLine someFirst someSecond]

/--
Going on with a second count is the same as having asked for the sum of both, for the
motions that a count repeats.  The vertical ones have to keep a column.
-/
theorem target_add
    (repeated : motion.isRepeated = true)
    (keeps : motion.isVertical = true → ∃ column, args.column = some column)
    (someFirst : 1 ≤ first)
    (someSecond : 1 ≤ second) :
    motion.target buffer (motion.target buffer place { args with count := first })
        { args with count := second } =
      motion.target buffer place { args with count := first + second } := by
  cases motion with
  | left =>
      exact target_left_add someFirst someSecond
  | right =>
      exact target_right_add onlyNewlines someFirst someSecond
  | up | down | jumpUp | jumpDown =>
      obtain ⟨column, isColumn⟩ := keeps rfl
      exact target_add_of_column onlyNewlines rfl isColumn someFirst someSecond
  | wordForward | wordEnd | wordBackward =>
      exact target_add_of_iterate (fun _ _ => rfl) someFirst someSecond
  | _ =>
      contradiction

end BrokenByNewlines

end Counts

/-! ## The lines that operators take -/

/--
The line that a motion leads to from a line, if operators take whole lines for it.  There
is no line above the first and none below the last one.
-/
def lineLedTo?
    (motion : Motion)
    (line last : Nat)
    (args : MotionArgs) : Option Nat :=
  let count := max args.count 1
  let asked := args.line.map fun number => min (number - 1) last
  match motion with
  | .up => some (line - count)
  | .down => some (min (line + count) last)
  | .jumpUp => some (line - count * args.jumpLines)
  | .jumpDown => some (min (line + count * args.jumpLines) last)
  | .documentStart => some (asked.getD 0)
  | .documentEnd => some (asked.getD last)
  | _ => none

section Lines

variable
  {motion : Motion}
  {buffer : Buffer}
  {place : Nat}
  {args : MotionArgs}

/-- Operators take whole lines exactly for the motions that lead to a line. -/
theorem isLinewise_eq_isSome
    (line last : Nat)
    (args : MotionArgs) :
    motion.isLinewise = (motion.lineLedTo? line last args).isSome := by
  cases motion <;> rfl

/-- No sum that is no machine word is made where whole lines are taken. -/
theorem not_overflows_of_isLinewise (linewise : motion.isLinewise = true) :
    motion.overflows buffer place args = false := by
  unfold overflows
  rw [decide_eq_false_iff_not]
  rintro ⟨rfl, -⟩
  contradiction

variable
  {other : Nat}
  (onlyNewlines : Text.BrokenByNewlines buffer.text)
  (leads : motion.lineLedTo? (buffer.lineOf place) buffer.lastLine args = some other)

include onlyNewlines leads

/-- A motion arrives on the line that it leads to. -/
theorem lineOf_target_of_leads : buffer.lineOf (motion.target buffer place args) = other := by
  have isLine := buffer.lineOf_le_lastLine place
  unfold target
  dsimp only
  rw [buffer.lineOf_clamp]
  cases motion with
  | up | jumpUp =>
      cases leads
      dsimp only
      rw [Buffer.lineOf_offsetAt onlyNewlines]
      omega
  | down | jumpDown =>
      cases leads
      exact Buffer.lineOf_offsetAt onlyNewlines _ _
  | documentStart =>
      cases leads
      cases args.line with
      | none => exact buffer.lineOf_zero
      | some number => exact Buffer.lineOf_firstNonBlank_eq_min onlyNewlines _
  | documentEnd =>
      cases leads
      cases args.line with
      | none => exact buffer.lineOf_length
      | some number => exact Buffer.lineOf_firstNonBlank_eq_min onlyNewlines _
  | _ =>
      contradiction

/-- Operators take the lines between that of the place and the one that a motion leads to. -/
theorem linesCovered_of_leads :
    motion.linesCovered buffer place args =
      ⟨min (buffer.lineOf place) other, max (buffer.lineOf place) other⟩ := by
  unfold linesCovered
  dsimp only
  rw [buffer.lineOf_min, buffer.lineOf_max, lineOf_target_of_leads onlyNewlines leads]

end Lines

end Motion

end ChordEditor
