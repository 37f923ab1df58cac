import ChordEditor.Proofs.Motion.Counts
import ChordEditor.Proofs.Window.InView

namespace ChordEditor

/-!
# Moves of the cursor

A vertical move remembers the column that the first one started from, so a run of them
comes through shorter lines and back to the column (`Window.moveEach_keeps_column`).  For
the same reason a move with a count can be made in two parts (`Window.moveCursor_add`).
Both hold where LF alone ends a line.

In machine words the two parts of a count may lead to the right where their sum does not,
as it stops the program (`Window.moveCursor?_in_two_parts`).
-/

/-- A motion, what it is given, and whether it extends the selection. -/
structure Move where
  motion : Motion
  args : MotionArgs := {}
  extend : Bool := false

/-- The lines that the moves go to one after the other, as far as there are lines. -/
def Buffer.lineAfter
    (buffer : Buffer)
    (line : Nat)
    (moves : List Move) : Nat :=
  moves.foldl (fun line move => buffer.lineBelow line (move.motion.linesDown move.args)) line

namespace Window

/-- Make moves one after the other. -/
def moveEach
    (window : Window)
    (buffer : Buffer)
    (moves : List Move) : Window :=
  moves.foldl
    (fun window move => window.moveCursor buffer move.motion move.args move.extend)
    window

section OneMove

variable
  {window : Window}
  {buffer : Buffer}
  {motion : Motion}
  {args : MotionArgs}
  {extend : Bool}

/-- Going on with the same motion keeps the same column. -/
theorem keptColumn?_moveCursor :
    (window.moveCursor buffer motion args extend).keptColumn? buffer motion =
      window.keptColumn? buffer motion := by
  rw [keptColumn?, moveCursor_preferredColumn, keptColumn?]
  split <;> rfl

/-- A move stays within the text. -/
theorem moveCursor_position_le :
    (window.moveCursor buffer motion args extend).cursor.position ≤ buffer.length := by
  rw [moveCursor_cursor]
  exact motion.target_le buffer _ _

/-- With numbers of any size a move with a count can be made in two parts. -/
theorem moveCursor_add
    (onlyNewlines : Text.BrokenByNewlines buffer.text)
    (repeated : motion.isRepeated = true)
    {first second : Nat}
    (someFirst : 1 ≤ first)
    (someSecond : 1 ≤ second) :
    let moved (count : Nat) (window : Window) : Window :=
      window.moveCursor buffer motion { args with count } extend
    (moved second (moved first window)).cursor = (moved (first + second) window).cursor ∧
      (moved second (moved first window)).preferredColumn =
        (moved (first + second) window).preferredColumn := by
  intro moved
  constructor
  · have keeps (vertical : motion.isVertical = true) :
        ∃ column, window.keptColumn? buffer motion = some column :=
      ⟨_, if_pos vertical⟩
    have arrives :=
      @Motion.target_add motion buffer window.cursor.position
        { args with column := window.keptColumn? buffer motion } first second onlyNewlines
        repeated keeps someFirst someSecond
    simp only [moved, moveCursor_cursor, keptColumn?_moveCursor, Cursor.moveTo] at arrives ⊢
    rw [arrives]
    cases extend <;> rfl
  · simp only [moved, moveCursor_preferredColumn, keptColumn?_moveCursor]

/-- A move goes nowhere exactly if the count leads too far to the right. -/
theorem moveCursor?_eq_none_iff :
    window.moveCursor? buffer motion args extend = none ↔
      motion = .right ∧
        Text.maxWord64 < buffer.clamp window.cursor.position + max args.count 1 := by
  unfold moveCursor? Motion.overflows
  split <;> simp_all

/-- A move to the right goes so many places, and not behind the end of the line. -/
theorem position_moveCursor_right :
    (window.moveCursor buffer .right args extend).cursor.position =
      min (buffer.clamp window.cursor.position + max args.count 1)
        (buffer.lineEnd (window.line buffer)) := by
  rw [moveCursor_cursor, Motion.target, buffer.lineOf_clamp, Window.line]
  cases extend <;> rfl

/-- A move that goes somewhere goes where a move with numbers of any size goes. -/
theorem moveCursor_of_moveCursor?
    {moved : Window}
    (goes : window.moveCursor? buffer motion args extend = some moved) :
    window.moveCursor buffer motion args extend = moved := by
  unfold moveCursor? at goes
  split at goes
  · contradiction
  · exact Option.some.inj goes

section TwoMoves

variable
  {first second : Nat}
  (someFirst : 1 ≤ first)
  (someSecond : 1 ≤ second)

include someFirst someSecond

/-- A move behind another one goes nowhere exactly if it leads too far from there. -/
theorem moveCursor?_behind_eq_none_iff :
    (window.moveCursor buffer motion { args with count := first } extend).moveCursor? buffer
          motion { args with count := second } extend =
        none ↔
      motion = .right ∧
        Text.maxWord64 <
          min (buffer.clamp window.cursor.position + first)
              (buffer.lineEnd (window.line buffer)) +
            second := by
  rw [moveCursor?_eq_none_iff]
  apply and_congr_right
  rintro rfl
  rw [Buffer.clamp_of_le moveCursor_position_le, position_moveCursor_right,
    Nat.max_eq_left someFirst, Nat.max_eq_left someSecond]

/-- Two moves go nowhere exactly if one of them does. -/
theorem moveCursor?_bind_eq_none_iff :
    ((window.moveCursor? buffer motion { args with count := first } extend).bind
          fun between => between.moveCursor? buffer motion { args with count := second } extend) =
        none ↔
      motion = .right ∧
        (Text.maxWord64 < buffer.clamp window.cursor.position + first ∨
          Text.maxWord64 <
            min (buffer.clamp window.cursor.position + first)
                (buffer.lineEnd (window.line buffer)) +
              second) := by
  have firstStops :=
    @moveCursor?_eq_none_iff window buffer motion { args with count := first } extend
  dsimp only at firstStops
  rw [Nat.max_eq_left someFirst] at firstStops
  cases goes : window.moveCursor? buffer motion { args with count := first } extend with
  | none =>
      have stops := firstStops.mp goes
      exact iff_of_true rfl ⟨stops.1, .inl stops.2⟩
  | some between =>
      have goesOn : ¬ (motion = .right ∧ _) := fun stops =>
        nomatch goes.symm.trans (firstStops.mpr stops)
      obtain rfl := moveCursor_of_moveCursor? goes
      rw [Option.bind_some, moveCursor?_behind_eq_none_iff someFirst someSecond]
      apply and_congr_right
      intro toRight
      rw [or_iff_right fun tooFar => goesOn ⟨toRight, tooFar⟩]

end TwoMoves

/--
Where LF alone ends a line, a move with the sum of two counts ends where moves with the one
and then with the other end, with the same column for further moves, if it ends at all.
It stops the program exactly if it goes to the right and the sum makes no machine word with
the place; two moves do so if one of the counts makes none with the place from which it
goes on, and that is not behind the end of the line.
-/
theorem moveCursor?_in_two_parts
    (onlyNewlines : Text.BrokenByNewlines buffer.text)
    (repeated : motion.isRepeated = true)
    {first second : Nat}
    (someFirst : 1 ≤ first)
    (someSecond : 1 ≤ second) :
    let moved? (count : Nat) (window : Window) : Option Window :=
      window.moveCursor? buffer motion { args with count } extend
    let atOnce := moved? (first + second) window
    let inParts := (moved? first window).bind (moved? second)
    let start := buffer.clamp window.cursor.position
    let stop := buffer.lineEnd (window.line buffer)
    (atOnce = none ↔ motion = .right ∧ Text.maxWord64 < start + (first + second)) ∧
      (inParts = none ↔
        motion = .right ∧
          (Text.maxWord64 < start + first ∨
            Text.maxWord64 < min (start + first) stop + second)) ∧
        ∀ once,
          atOnce = some once →
            ∃ twice,
              inParts = some twice ∧
                twice.cursor = once.cursor ∧
                  twice.preferredColumn = once.preferredColumn := by
  intro moved? atOnce inParts start stop
  have stopsAtOnce :
      atOnce = none ↔ motion = .right ∧ Text.maxWord64 < start + (first + second) := by
    rw [← Nat.max_eq_left (show 1 ≤ first + second by omega)]
    exact moveCursor?_eq_none_iff
  have stopsInParts :
      inParts = none ↔
        motion = .right ∧
          (Text.maxWord64 < start + first ∨
            Text.maxWord64 < min (start + first) stop + second) :=
    moveCursor?_bind_eq_none_iff someFirst someSecond
  refine ⟨stopsAtOnce, stopsInParts, ?_⟩
  intro once arrives
  have goesOn : inParts ≠ none := by
    intro stops
    obtain ⟨toRight, tooFar⟩ := stopsInParts.mp stops
    have nowhere := stopsAtOnce.mpr ⟨toRight, by omega⟩
    exact nomatch arrives.symm.trans nowhere
  obtain ⟨twice, arrivesTwice⟩ := Option.ne_none_iff_exists'.mp goesOn
  obtain ⟨between, goesFirst, goesSecond⟩ := Option.bind_eq_some_iff.mp arrivesTwice
  obtain rfl := moveCursor_of_moveCursor? goesFirst
  obtain rfl := moveCursor_of_moveCursor? goesSecond
  obtain rfl := moveCursor_of_moveCursor? arrives
  exact ⟨_, arrivesTwice, moveCursor_add onlyNewlines repeated someFirst someSecond⟩

/--
Down by one and by two lines over a short line is down by three lines.  To the right by
the largest machine word but one and by one goes to the end of the line, and at once it
stops the program.
-/
theorem down_and_right_in_two_parts :
    let buffer := Buffer.ofText "abcd\na\nabc\nabcdef".toList
    let window (place : Nat) := (Window.ofHeight 2).setCursor buffer place
    let moved? (motion : Motion) (count : Nat) (window : Window) : Option Window :=
      window.moveCursor? buffer motion { count } true
    (Text.BrokenByNewlines buffer.text ∧ Motion.down.isRepeated = true ∧
        Motion.right.isRepeated = true ∧ 1 ≤ 2 ∧ 1 ≤ Text.maxWord64 - 1) ∧
      (∃ once twice,
        moved? .down 3 (window 4) = some once ∧
          (moved? .down 1 (window 4)).bind (moved? .down 2) = some twice ∧
            once.cursor = ⟨4, 15⟩ ∧ twice.cursor = ⟨4, 15⟩ ∧ twice.preferredColumn = some 4) ∧
        moved? .right (Text.maxWord64 - 1 + 1) (window 1) = none ∧
          ((moved? .right (Text.maxWord64 - 1) (window 1)).bind (moved? .right 1)).map
              (Cursor.position ∘ Window.cursor) =
            some 4 := by
  intro buffer window moved?
  have onlyNewlines : Text.BrokenByNewlines buffer.text := by
    decide +kernel
  refine ⟨⟨onlyNewlines, rfl, rfl, by decide, by decide⟩, ?_, ?_, ?_⟩
  · have parts :=
      @moveCursor?_in_two_parts (window 4) buffer .down {} true onlyNewlines rfl 1 2
        (by decide) (by decide)
    obtain ⟨twice, inParts, sameCursor, sameColumn⟩ := parts.2.2 _ rfl
    refine ⟨_, twice, rfl, inParts, by decide +kernel, ?_, ?_⟩
    · exact sameCursor.trans (by decide +kernel)
    · exact sameColumn.trans (by decide +kernel)
  · have parts :=
      @moveCursor?_in_two_parts (window 1) buffer .right {} true onlyNewlines rfl
        (Text.maxWord64 - 1) 1 (by decide) (by decide)
    exact parts.1.mpr ⟨rfl, by decide +kernel⟩
  · decide +kernel

end OneMove

/-! ## Runs of vertical moves -/

/-- The cursor is on a line, at a column or where the line ends, and the column is kept. -/
structure KeepsColumn
    (window : Window)
    (buffer : Buffer)
    (line column : Nat) : Prop where
  onLine : window.line buffer = line
  atColumn : window.column buffer = min column (buffer.lineLength line)
  preferred : window.preferredColumn.getD (window.column buffer) = column

section Moves

variable
  {window : Window}
  {buffer : Buffer}
  {line column : Nat}

variable (onlyNewlines : Text.BrokenByNewlines buffer.text)

include onlyNewlines

/-- A cursor for which no column is preferred keeps its own one. -/
theorem keepsColumn_of_none (fresh : window.preferredColumn = none) :
    window.KeepsColumn buffer (window.line buffer) (window.column buffer) where
  onLine := rfl
  atColumn := (Nat.min_eq_left (Buffer.columnOf_le_lineLength onlyNewlines _)).symm
  preferred := by
    rw [fresh]
    rfl

/-- A vertical move goes to its line and keeps the column. -/
theorem KeepsColumn.moveCursor
    {motion : Motion}
    (vertical : motion.isVertical = true)
    (keeps : window.KeepsColumn buffer line column)
    (args : MotionArgs)
    (extend : Bool) :
    (window.moveCursor buffer motion args extend).KeepsColumn buffer
      (buffer.lineBelow line (motion.linesDown args)) column := by
  have kept : window.keptColumn? buffer motion = some column := by
    rw [keptColumn?, if_pos vertical, keeps.preferred]
  have arrives :
      (window.moveCursor buffer motion args extend).cursor.position =
        buffer.offsetAt (buffer.lineBelow line (motion.linesDown args)) column := by
    rw [moveCursor_cursor, kept, ← keeps.onLine]
    exact
      @Motion.target_of_column _ _ { args with column := some column } _ vertical rfl
        window.cursor.position
  have isLine := buffer.lineBelow_le_lastLine line (motion.linesDown args)
  constructor
  · rw [Window.line, arrives, Buffer.lineOf_offsetAt onlyNewlines, Nat.min_eq_left isLine]
  · rw [Window.column, arrives, Buffer.columnOf_offsetAt onlyNewlines, Nat.min_eq_left isLine]
  · rw [moveCursor_preferredColumn, kept]
    rfl

/-- Any number of vertical moves go to the line after them and keep the column. -/
theorem KeepsColumn.moveEach
    {moves : List Move}
    (vertical : ∀ move ∈ moves, move.motion.isVertical = true)
    (keeps : window.KeepsColumn buffer line column) :
    (window.moveEach buffer moves).KeepsColumn buffer (buffer.lineAfter line moves) column := by
  induction moves generalizing window line with
  | nil =>
      exact keeps
  | cons move moves inductionHypothesis =>
      obtain ⟨isVertical, others⟩ := List.forall_mem_cons.mp vertical
      exact
        inductionHypothesis others
          (keeps.moveCursor onlyNewlines isVertical move.args move.extend)

omit onlyNewlines

/-- Moves leave the cursor where it is, if there are none, or arrive within the text. -/
theorem moveEach_position (moves : List Move) :
    (window.moveEach buffer moves).cursor.position = window.cursor.position ∨
      (window.moveEach buffer moves).cursor.position ≤ buffer.length := by
  rcases List.eq_nil_or_concat moves with rfl | ⟨earlier, last, rfl⟩
  · exact .inl rfl
  · right
    rw [moveEach, List.concat_eq_append, List.foldl_append]
    exact moveCursor_position_le

/--
Where LF alone ends a line, a run of vertical moves keeps the column that it started from:
it ends on the line that the moves lead to, at that column or where the line ends.  A run
that comes back to its line comes back to its place; to the end of the text if the place
was behind it.
-/
theorem moveEach_keeps_column
    (onlyNewlines : Text.BrokenByNewlines buffer.text)
    (fresh : window.preferredColumn = none)
    {moves : List Move}
    (vertical : ∀ move ∈ moves, move.motion.isVertical = true) :
    let moved := window.moveEach buffer moves
    let line := buffer.lineAfter (window.line buffer) moves
    moved.line buffer = line ∧
      moved.column buffer = min (window.column buffer) (buffer.lineLength line) ∧
        (line = window.line buffer →
          moved.cursor.position = window.cursor.position ∨
            buffer.length < window.cursor.position ∧ moved.cursor.position = buffer.length) := by
  intro moved line
  have start := keepsColumn_of_none onlyNewlines fresh
  have keeps := start.moveEach onlyNewlines vertical
  refine ⟨keeps.onLine, keeps.atColumn, fun returns => ?_⟩
  have sameLine : moved.line buffer = window.line buffer :=
    keeps.onLine.trans returns
  have sameColumn : moved.column buffer = window.column buffer := by
    rw [keeps.atColumn, show buffer.lineAfter _ moves = _ from returns]
    exact Nat.min_eq_left (Buffer.columnOf_le_lineLength onlyNewlines _)
  have samePlace : buffer.clamp moved.cursor.position = buffer.clamp window.cursor.position := by
    rw [← buffer.lineStart_add_columnOf_eq_clamp, ← buffer.lineStart_add_columnOf_eq_clamp]
    exact congrArg₂ (fun line column => buffer.lineStart line + column) sameLine sameColumn
  rw [Buffer.clamp_eq_min, Buffer.clamp_eq_min] at samePlace
  have arrives :
      moved.cursor.position = window.cursor.position ∨ moved.cursor.position ≤ buffer.length :=
    moveEach_position moves
  omega

/--
Down to a short line and to an empty one, and on beyond the last line: the cursor is at the
column where it started.  Up beyond the first line it is back at its place.
-/
theorem column_kept_over_short_lines :
    let buffer := Buffer.ofText "abcd\nab\n\nabcdef".toList
    let window := (Window.ofHeight 2).setCursor buffer 3
    let down : List Move :=
      [⟨.down, {}, false⟩, ⟨.down, {}, true⟩,
        ⟨.jumpDown, { count := 2, jumpLines := 7 }, false⟩]
    let downAndUp := down ++ [⟨.up, { count := 9 }, false⟩]
    (Text.BrokenByNewlines buffer.text ∧ window.preferredColumn = none ∧
        ∀ move ∈ downAndUp, move.motion.isVertical = true) ∧
      (window.moveEach buffer (down.take 2)).column buffer = 0 ∧
        (window.moveEach buffer down).line buffer = 3 ∧
          (window.moveEach buffer down).column buffer = 3 ∧
            (window.moveEach buffer downAndUp).cursor.position = 3 := by
  intro buffer window down downAndUp
  have onlyNewlines : Text.BrokenByNewlines buffer.text := by
    decide +kernel
  have vertical : ∀ move ∈ downAndUp, move.motion.isVertical = true := by
    decide
  have verticalDown : ∀ move ∈ down, move.motion.isVertical = true := by
    decide
  have onTheWay :=
    moveEach_keeps_column onlyNewlines (show window.preferredColumn = none from rfl)
      (fun move isMove => verticalDown move (List.mem_of_mem_take (i := 2) isMove))
  have below :=
    moveEach_keeps_column onlyNewlines (show window.preferredColumn = none from rfl) verticalDown
  have back :=
    (moveEach_keeps_column onlyNewlines (show window.preferredColumn = none from rfl)
      vertical).2.2 (by decide +kernel)
  refine ⟨⟨onlyNewlines, rfl, vertical⟩, ?_, ?_, ?_, ?_⟩
  · rw [onTheWay.2.1]
    decide +kernel
  · rw [below.1]
    decide +kernel
  · rw [below.2.1]
    decide +kernel
  · exact back.resolve_right (by decide +kernel)

end Moves

end Window

end ChordEditor
