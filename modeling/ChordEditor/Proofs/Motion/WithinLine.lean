import ChordEditor.Proofs.Buffer.Arrivals
import ChordEditor.Proofs.Buffer.OwnText

namespace ChordEditor.Motion

/-!
# Motions that keep to a line

Some motions stay on the line of the place, the vertical ones go to another line that
the count gives.  They arrive on the line that they aim at unless they go behind its own
text and this has a break (`lineOf_target_iff`): then they arrive where the next line
starts.  To the right a count that makes no machine word with the place arrives nowhere.
-/

/-- Whether the motion stays on the line. -/
def isLineLocal : Motion → Bool
  | .left | .right | .lineStart | .lineEnd | .lastChar | .firstNonBlank | .findChar _ => true
  | _ => false

/-- The line that the motion aims at: another one if it is vertical. -/
def aimedLine
    (motion : Motion)
    (buffer : Buffer)
    (place : Nat)
    (args : MotionArgs) : Nat :=
  let line := buffer.lineOf place
  let count := max args.count 1
  match motion with
  | .up => line - count
  | .down => min (line + count) buffer.lastLine
  | .jumpUp => line - count * args.jumpLines
  | .jumpDown => min (line + count * args.jumpLines) buffer.lastLine
  | _ => line

/-- Whether the motion goes behind the last character of the own text of the line. -/
def reachesEnd
    (motion : Motion)
    (buffer : Buffer)
    (place : Nat)
    (args : MotionArgs) : Bool :=
  let aimed := motion.aimedLine buffer place args
  match motion with
  | .right => buffer.lineEnd aimed ≤ buffer.clamp place + max args.count 1
  | .lineEnd => true
  | .firstNonBlank => Text.isBlankText (buffer.lineText aimed)
  | .up | .down | .jumpUp | .jumpDown =>
      buffer.lineLength aimed ≤ args.column.getD (buffer.columnOf place)
  | _ => false

/-- Whether the motion goes behind a break that belongs to the own text of the line. -/
def PassesBreak
    (motion : Motion)
    (buffer : Buffer)
    (place : Nat)
    (args : MotionArgs) : Prop :=
  motion.reachesEnd buffer place args = true ∧
    ¬ Text.HasNoBreak (buffer.lineText (motion.aimedLine buffer place args))

section Arrival

variable
  {motion : Motion}
  {buffer : Buffer}
  {place : Nat}
  {args : MotionArgs}

/-- Motions only know places of the text. -/
theorem target_clamp :
    motion.target buffer (buffer.clamp place) args = motion.target buffer place args := by
  simp only [target, Buffer.clamp_clamp]

theorem aimedLine_clamp :
    motion.aimedLine buffer (buffer.clamp place) args = motion.aimedLine buffer place args := by
  simp only [aimedLine, Buffer.lineOf_clamp]

theorem reachesEnd_clamp :
    motion.reachesEnd buffer (buffer.clamp place) args =
      motion.reachesEnd buffer place args := by
  unfold reachesEnd Buffer.columnOf
  rw [aimedLine_clamp, Buffer.lineOf_clamp, Buffer.clamp_clamp]

/-- A motion arrives nowhere exactly if the count leads too far to the right. -/
theorem target?_eq_none_iff :
    motion.target? buffer place args = none ↔
      motion = .right ∧ Text.maxWord64 < buffer.clamp place + max args.count 1 := by
  unfold target? overflows
  split <;> simp_all

/-- Where a motion arrives at all it arrives as with numbers of any size. -/
theorem target?_eq_some
    {arrival : Nat}
    (arrives : motion.target? buffer place args = some arrival) :
    motion.target buffer place args = arrival := by
  unfold target? at arrives
  split at arrives
  · contradiction
  · exact Option.some.inj arrives

theorem aimedLine_le_lastLine : motion.aimedLine buffer place args ≤ buffer.lastLine := by
  have located := buffer.lineOf_le_lastLine place
  unfold aimedLine
  cases motion <;> dsimp only <;> omega

/-- Vertical motions arrive at the column that they keep, or at the end of the own text. -/
theorem target_of_isVertical
    (vertical : motion.isVertical = true)
    (inText : place ≤ buffer.length) :
    motion.target buffer place args =
      buffer.offsetAt (motion.aimedLine buffer place args)
        (args.column.getD (buffer.columnOf place)) := by
  have located := buffer.lineOf_le_lastLine place
  have clamped (line : Nat) (column : Nat) :
      buffer.offsetAt (min line buffer.lastLine) column = buffer.offsetAt line column := by
    unfold Buffer.offsetAt
    rw [Nat.min_assoc, Nat.min_self]
  cases motion with
  | up | jumpUp =>
      simp only [target, aimedLine, Buffer.clamp_of_le inText]
  | down | jumpDown =>
      simp only [target, aimedLine, Buffer.clamp_of_le inText, clamped]
  | _ =>
      contradiction

/-- A motion that goes behind the own text arrives at its end. -/
theorem target_of_reachesEnd
    (inText : place ≤ buffer.length)
    (reaches : motion.reachesEnd buffer place args = true) :
    motion.target buffer place args =
      buffer.lineEnd (motion.aimedLine buffer place args) := by
  have isLine := @aimedLine_le_lastLine motion buffer place args
  cases motion with
  | right =>
      have behind : buffer.lineEnd (buffer.lineOf place) ≤ place + max args.count 1 := by
        simpa [reachesEnd, aimedLine, Buffer.clamp_of_le inText] using reaches
      simp only [target, aimedLine, Buffer.clamp_of_le inText, Nat.min_eq_right behind]
  | lineEnd =>
      simp only [target, aimedLine, Buffer.clamp_of_le inText]
  | firstNonBlank =>
      have sameLength :
          (Text.leadingBlank (buffer.lineText (buffer.lineOf place))).length =
            (buffer.lineText (buffer.lineOf place)).length :=
        Nat.le_antisymm (Text.length_leadingBlank_le _)
          ((Text.length_le_leadingBlank_iff _).mpr reaches)
      simp only [target, aimedLine, Buffer.clamp_of_le inText, Buffer.firstNonBlank, sameLength]
      exact (Buffer.lineEnd_eq isLine).symm
  | up | down | jumpUp | jumpDown =>
      have behind := Nat.min_eq_right (of_decide_eq_true reaches)
      rw [target_of_isVertical rfl inText, Buffer.offsetAt, Nat.min_eq_left isLine,
        Buffer.lineEnd_eq isLine, behind]
      rfl
  | _ =>
      contradiction

/-- A motion that does not go behind the own text arrives on the line that it aims at. -/
theorem lineOf_target_of_not_reachesEnd
    (keepsLine : motion.isLineLocal = true ∨ motion.isVertical = true)
    (inText : place ≤ buffer.length)
    (notReaches : motion.reachesEnd buffer place args = false) :
    buffer.lineOf (motion.target buffer place args) =
      motion.aimedLine buffer place args := by
  have isLine := buffer.lineOf_le_lastLine place
  have starts := buffer.lineStart_lineOf_le inText
  have ends := Buffer.lineEnd_eq isLine
  cases motion with
  | left =>
      have placed := Buffer.lineStart_add_columnOf inText
      simp only [target, Buffer.clamp_of_le inText]
      exact Buffer.lineOf_of_between inText (by omega) (Nat.sub_le _ _)
  | lineStart =>
      simp only [target, Buffer.clamp_of_le inText]
      exact Buffer.lineOf_of_between inText (Nat.le_refl _) starts
  | right =>
      have before : place + max args.count 1 < buffer.lineEnd (buffer.lineOf place) := by
        simpa [reachesEnd, aimedLine, Buffer.clamp_of_le inText] using notReaches
      simp only [target, aimedLine, Buffer.clamp_of_le inText,
        Nat.min_eq_left (Nat.le_of_lt before)]
      exact Buffer.lineOf_of_inside isLine (by omega) before
  | lastChar =>
      simp only [target, aimedLine, Buffer.clamp_of_le inText]
      by_cases noText : (buffer.lineText (buffer.lineOf place)).length = 0
      · exact Buffer.lineOf_of_between inText (by omega) (by omega)
      · exact Buffer.lineOf_of_inside isLine (by omega) (by omega)
  | firstNonBlank =>
      have shorter :
          (Text.leadingBlank (buffer.lineText (buffer.lineOf place))).length <
            (buffer.lineText (buffer.lineOf place)).length := by
        apply Nat.lt_of_not_le
        rw [Text.length_le_leadingBlank_iff]
        exact Bool.eq_false_iff.mp notReaches
      simp only [target, aimedLine, Buffer.clamp_of_le inText, Buffer.firstNonBlank]
      exact Buffer.lineOf_of_inside isLine (by omega) (by omega)
  | findChar backward =>
      simp only [target, aimedLine, Buffer.clamp_of_le inText]
      split
      · rfl
      · split
        · rfl
        · rename_i found isFound
          have inOwn := findInLine?_lt isFound
          exact Buffer.lineOf_of_inside isLine (by omega) (by omega)
  | up | down | jumpUp | jumpDown =>
      have before := Nat.lt_of_not_le (of_decide_eq_false notReaches)
      rw [target_of_isVertical rfl inText, Buffer.offsetAt,
        Nat.min_eq_left aimedLine_le_lastLine, Nat.min_eq_left (Nat.le_of_lt before)]
      exact
        Buffer.lineOf_lineStart_add aimedLine_le_lastLine (Nat.le_of_lt before) (.inl before)
  | lineEnd =>
      contradiction
  | _ =>
      simp [isLineLocal, isVertical] at keepsLine

/-- With numbers of any size a motion arrives on the line that it aims at, or on the next. -/
theorem lineOf_target_of_inText
    (keepsLine : motion.isLineLocal = true ∨ motion.isVertical = true)
    (inText : place ≤ buffer.length) :
    let aimed := motion.aimedLine buffer place args
    let arrival := motion.target buffer place args
    (buffer.lineOf arrival = aimed ↔ ¬ motion.PassesBreak buffer place args) ∧
      (motion.PassesBreak buffer place args → arrival = buffer.lineStart (aimed + 1)) := by
  intro aimed arrival
  have isLine : aimed ≤ buffer.lastLine := aimedLine_le_lastLine
  cases reaches : motion.reachesEnd buffer place args with
  | false =>
      have onLine := lineOf_target_of_not_reachesEnd keepsLine inText reaches
      have passesNone : ¬ motion.PassesBreak buffer place args := by
        rintro ⟨passes, _⟩
        rw [reaches] at passes
        contradiction
      exact ⟨iff_of_true onLine passesNone, fun passes => absurd passes passesNone⟩
  | true =>
      have atEnd : arrival = buffer.lineEnd aimed := target_of_reachesEnd inText reaches
      rw [atEnd, Buffer.lineOf_lineEnd_iff isLine, PassesBreak]
      constructor
      · simp [reaches, aimed]
      · rintro ⟨_, hasBreak⟩
        exact (Buffer.lineEnd_of_hasBreak isLine hasBreak).2

/--
A motion that keeps to a line arrives somewhere, unless a count to the right makes no
machine word with the place.  It arrives on the line that it aims at, unless it goes behind
a break that belongs to the own text of that line: then it arrives on the next one.
-/
theorem lineOf_target_iff
    (keepsLine : motion.isLineLocal = true ∨ motion.isVertical = true) :
    let aimed := motion.aimedLine buffer place args
    (motion.target? buffer place args = none ↔
        motion = .right ∧ Text.maxWord64 < buffer.clamp place + max args.count 1) ∧
      ∀ arrival,
        motion.target? buffer place args = some arrival →
          (buffer.lineOf arrival = aimed ↔ ¬ motion.PassesBreak buffer place args) ∧
            (motion.PassesBreak buffer place args →
              arrival = buffer.lineStart (aimed + 1)) := by
  intro aimed
  refine ⟨target?_eq_none_iff, ?_⟩
  intro arrival arrives
  have onLine :=
    @lineOf_target_of_inText motion buffer (buffer.clamp place) args keepsLine
      (buffer.clamp_le place)
  unfold PassesBreak at onLine ⊢
  rw [target_clamp, aimedLine_clamp, reachesEnd_clamp, target?_eq_some arrives] at onLine
  exact onLine

/--
The end of a line that ends in VT is on the next line.  Right stays on the line while it
stops before the VT, and up gets there from the next line.  Right by the largest machine
word arrives nowhere from the second place.
-/
theorem end_of_line_behind_vt :
    let buffer := Buffer.ofText "ab\x0bc".toList
    buffer.lineOf 0 = 0 ∧
      lineEnd.target? buffer 0 {} = some (buffer.lineStart 1) ∧
        buffer.lineOf (right.target buffer 0 {}) = 0 ∧
          buffer.lineOf (up.target buffer 4 {}) = 0 ∧
            right.target? buffer 1 { count := Text.maxWord64 } = none := by
  intro buffer
  have passes : lineEnd.PassesBreak buffer 0 {} := by
    refine ⟨rfl, fun noBreak => ?_⟩
    exact absurd (noBreak '\x0b' (by decide +kernel)) (by decide)
  have keeps (motion : Motion) (place : Nat)
      (stops : motion.reachesEnd buffer place {} = false) :
      ¬ motion.PassesBreak buffer place {} := by
    rintro ⟨reaches, _⟩
    rw [stops] at reaches
    contradiction
  have atEnd :=
    ((@lineOf_target_iff lineEnd buffer 0 {} (.inl rfl)).2 _ rfl).2 passes
  have stays : right.target? buffer 0 {} = some (right.target buffer 0 {}) := by
    decide +kernel
  have toRight :=
    ((@lineOf_target_iff right buffer 0 {} (.inl rfl)).2 _ stays).1.mpr
      (keeps right 0 (by decide +kernel))
  have above :=
    ((@lineOf_target_iff up buffer 4 {} (.inr rfl)).2 _ rfl).1.mpr
      (keeps up 4 (by decide +kernel))
  have nowhere :=
    (@lineOf_target_iff right buffer 1 { count := Text.maxWord64 } (.inl rfl)).1.mpr
      ⟨rfl, by decide +kernel⟩
  exact ⟨by decide +kernel, congrArg some atEnd, toRight, above, nowhere⟩

end Arrival

end ChordEditor.Motion
