import ChordEditor.Proofs.Buffer.OwnText
import ChordEditor.Proofs.Text.ChangedLines

namespace ChordEditor

/-!
# The front of a line taken out

When characters are taken out at the start of a line, what is left of it comes behind the
line before.  The own text of a line can hold the break that ends the line, and then the
next line takes its place; and where a CR comes to stand before a LF they are one break.  So
there are as many lines less as breaks are lost (`lines_behind_front`), and the line goes
on with what was left of it only if none is.
-/

namespace Text

variable
  {before after text line front : List Char}
  {ended later : List (List Char)}

theorem text_of_shape
    {earlier others : List (List Char)}
    (shape : lines text = earlier ++ others) :
    text = earlier.flatten ++ others.flatten := by
  rw [← List.flatten_append, ← shape, flatten_lines]

/-- Behind lines that have ended come the lines of what follows, less a LF that joins a CR. -/
theorem drop_lines_append
    (isOpen : openLine before = [])
    (after : List Char) :
    (lines (before ++ after)).drop (breakCount before) =
      (lines after).drop (lostBreaks before after) := by
  cases joined : joinsBreak before after with
  | false =>
      rw [lines_append joined, isOpen, modifyHead_nil_append, ← length_endedLines, List.drop_left,
        lostBreaks, joined]
      rfl
  | true =>
      simp only [joinsBreak, Bool.and_eq_true, beq_iff_eq] at joined
      obtain ⟨earlier, rfl⟩ := List.getLast?_eq_some_iff.mp joined.1
      obtain ⟨rest, rfl⟩ := List.head?_eq_some_iff.mp joined.2
      have apart : joinsBreak earlier ('\r' :: '\n' :: rest) = false := by
        simp [joinsBreak]
      have counted : breakCount (earlier ++ ['\r']) = (endedLines earlier).length + 1 := by
        have parts := breakCount_append earlier ['\r']
        have one : breakCount ['\r'] = 1 := rfl
        have noneLost : lostBreaks earlier ['\r'] = 0 := by
          simp [lostBreaks, joinsBreak]
        rw [length_endedLines]
        omega
      have oneLost : lostBreaks (earlier ++ ['\r']) ('\n' :: rest) = 1 := by
        simp [lostBreaks, joinsBreak]
      rw [oneLost, counted, List.append_assoc, List.singleton_append, lines_append apart,
        List.drop_length_add_append]
      rfl

theorem breakCount_eq_zero_iff (text : List Char) : breakCount text = 0 ↔ HasNoBreak text := by
  constructor
  · intro noBreaks
    have whole := EndsBlank.lines_of_breakCount_eq_zero noBreaks
    have lastLine := congrArg List.getLast? (lines_eq text)
    rw [whole, List.getLast?_concat, List.getLast?_singleton, Option.some_inj] at lastLine
    rw [lastLine]
    exact openLine_hasNoBreak text
  · intro noBreak
    rw [breakCount, lineCount, lines_of_hasNoBreak noBreak]
    rfl

theorem lostBreaks_eq_zero_iff (before after : List Char) :
    lostBreaks before after = 0 ↔ joinsBreak before after = false := by
  cases joined : joinsBreak before after <;> simp [lostBreaks, joined]

/-- A line that has a break at its end is a text with one break. -/
theorem breakCount_of_isBreak
    {body ending : List Char}
    (noBreak : HasNoBreak body)
    (isBreak : IsBreak ending) :
    breakCount (body ++ ending) = 1 := by
  have endingLines : lines ending = [ending, []] := by
    rcases isBreak with rfl | ⟨c, isBreak, rfl⟩
    · rfl
    · rw [lines_cons, endsLine_eq, isBreak, joinsBreak_nil]
      rfl
  have counted := length_lines (body ++ ending)
  rw [lines_append_of_hasNoBreak noBreak endingLines] at counted
  exact (Nat.succ.inj counted).symm

/-- The front of a line's own text that has a break is the line, which this break ends. -/
theorem front_of_hasBreak
    (shape : lines text = ended ++ line :: later)
    (isFront : front <+: withoutReturn line)
    (hasBreak : ¬ HasNoBreak front) :
    front = line ∧ breakCount line = 1 ∧ later ≠ [] := by
  have ownHasBreak : ¬ HasNoBreak (withoutReturn line) := fun ownNoBreak =>
    hasBreak (hasNoBreak_of_isPrefix isFront ownNoBreak)
  obtain ⟨whole, someLater⟩ := own_of_hasBreak shape ownHasBreak
  obtain ⟨body, ending, rfl, noBreak, isBreak | ⟨_, isLast⟩⟩ := exists_body shape
  · refine ⟨?_, breakCount_of_isBreak noBreak isBreak, someLater⟩
    rcases isBreak with rfl | ⟨c, _, rfl⟩
    · rw [withoutReturn_append noBreak] at ownHasBreak
      simp [withoutReturn, isReturn, noBreak] at ownHasBreak
    · obtain ⟨rest, parts⟩ := whole ▸ isFront
      rcases List.eq_nil_or_concat rest with rfl | ⟨init, last, rfl⟩
      · rwa [List.append_nil] at parts
      · rw [List.concat_eq_append, ← List.append_assoc] at parts
        have inBody := (List.append_inj' parts rfl).1
        exact absurd (hasNoBreak_of_isPrefix ⟨init, inBody⟩ noBreak) hasBreak
  · contradiction

theorem OnLine.le_lineStop
    {place : Nat}
    (onLine : OnLine text place ended line later)
    (inText : place ≤ text.length) :
    place ≤ ended.flatten.length + line.length := by
  rcases onLine.stops with before | rfl
  · exact Nat.le_of_lt before
  · have whole := congrArg List.length (text_of_shape onLine.lines_eq)
    rw [List.flatten_singleton, List.length_append] at whole
    exact whole ▸ inText

/-- Something is left of a line before another one when a front without a break is taken. -/
theorem length_front_lt
    (shape : lines text = ended ++ line :: later)
    (someLater : later ≠ [])
    (isFront : front <+: withoutReturn line)
    (noBreak : HasNoBreak front) :
    front.length < line.length := by
  have frontLength := isFront.length_le
  have ownLength := (own_isPrefix line).length_le
  apply Nat.lt_of_not_le
  intro allTaken
  obtain rfl : front = withoutReturn line := isFront.eq_of_length (by omega)
  obtain ⟨ending, parts, isEnding⟩ := line_of_plain shape noBreak
  have lengths := congrArg List.length parts
  rw [List.length_append] at lengths
  obtain rfl : ending = [] := List.length_eq_zero_iff.mp (by omega)
  simp [someLater] at isEnding

/-- What follows the front of a line, and how many breaks the front has. -/
theorem lines_behind_front
    (shape : lines text = ended ++ line :: later)
    (isFront : front <+: withoutReturn line)
    {behind : List Char}
    (cut : text = ended.flatten ++ (front ++ behind)) :
    (HasNoBreak front ∧ breakCount front = 0 ∧
        lines behind = line.drop front.length :: later) ∨
      ¬ HasNoBreak front ∧ breakCount front = 1 ∧ lines behind = later := by
  have sameRest : (line :: later).flatten = front ++ behind :=
    List.append_cancel_left ((text_of_shape shape).symm.trans cut)
  by_cases noBreak : HasNoBreak front
  · have behindLines := (cutBetween shape (List.cons_ne_nil line later)).lines_eq
    obtain ⟨rest, wholeLine⟩ := isFront.trans (own_isPrefix line)
    refine .inl ⟨noBreak, (breakCount_eq_zero_iff front).mpr noBreak, ?_⟩
    rw [sameRest, ← wholeLine] at behindLines
    rw [← wholeLine, List.drop_left]
    exact lines_behind_body noBreak behindLines
  · obtain ⟨rfl, oneBreak, someLater⟩ := front_of_hasBreak shape isFront noBreak
    have next : lines text = (ended ++ [front]) ++ later := by
      rw [shape, List.append_assoc]
      rfl
    refine .inr ⟨noBreak, oneBreak, ?_⟩
    rw [← List.append_cancel_left sameRest]
    exact (cutBetween next someLater).lines_eq

/--
Taking the front of a line out loses the breaks of the front, and one more if a CR comes to
stand before a LF.  If none is lost the line becomes what was left of it, and else the text
goes on in its place with as many lines further down.
-/
theorem lines_without_front
    (shape : lines text = ended ++ line :: later)
    (isFront : front <+: withoutReturn line)
    {behind : List Char}
    (cut : text = ended.flatten ++ (front ++ behind)) :
    let lost := breakCount front + lostBreaks ended.flatten behind
    let left := ended.flatten ++ behind
    breakCount left + lost = breakCount text ∧
      (lost = 0 → lines left = ended ++ line.drop front.length :: later) ∧
        (lost ≠ 0 → (lines left).drop ended.length = (lines text).drop (ended.length + lost)) := by
  intro lost left
  have cutBefore := cutBetween shape (List.cons_ne_nil line later)
  have counted : breakCount ended.flatten = ended.length := by
    rw [← length_endedLines, cutBefore.ended]
  have leftCount : breakCount left + lostBreaks ended.flatten behind =
      breakCount ended.flatten + breakCount behind :=
    breakCount_append ended.flatten behind
  have behindLeft : (lines left).drop (breakCount ended.flatten) =
      (lines behind).drop (lostBreaks ended.flatten behind) :=
    drop_lines_append cutBefore.isOpen behind
  have textCount := length_lines text
  have behindCount := length_lines behind
  rw [shape, List.length_append, List.length_cons] at textCount
  rw [counted] at leftCount behindLeft
  rcases lines_behind_front shape isFront cut with ⟨_, noBreaks, behindLines⟩ |
    ⟨_, oneBreak, behindLines⟩
  · rw [behindLines, List.length_cons] at behindCount
    have isLost : lost = lostBreaks ended.flatten behind := by
      omega
    refine ⟨by omega, ?_, ?_⟩
    · intro noneLost
      have apart := (lostBreaks_eq_zero_iff ended.flatten behind).mp (isLost.symm.trans noneLost)
      rw [lines_append apart, cutBefore.ended, cutBefore.isOpen, modifyHead_nil_append, behindLines]
    · intro someLost
      obtain ⟨more, isMore⟩ := Nat.exists_eq_succ_of_ne_zero someLost
      rw [behindLeft, behindLines, ← isLost, isMore, List.drop_succ_cons, shape,
        List.drop_length_add_append, List.drop_succ_cons]
  · rw [behindLines] at behindCount
    have isLost : lost = 1 + lostBreaks ended.flatten behind := by
      omega
    refine ⟨by omega, by omega, ?_⟩
    intro _
    rw [behindLeft, behindLines, isLost, shape, List.drop_length_add_append, Nat.add_comm 1,
      List.drop_succ_cons]

end Text

namespace Buffer

/-- How many breaks are lost when some characters at the start of a line are taken out. -/
def breaksLost (buffer : Buffer) (number count : Nat) : Nat :=
  Text.breakCount ((buffer.lineText number).take count) +
    Text.lostBreaks (buffer.text.take (buffer.lineStart number))
      (buffer.text.drop (buffer.lineStart number + count))

variable
  {buffer left : Buffer}
  {number count place : Nat}

theorem lineText_eq_of_drop
    {other : Nat}
    (sameBehind :
      (Text.lines left.text).drop number = (Text.lines buffer.text).drop other) :
    left.lineText number = buffer.lineText other := by
  have sameHead := congrArg List.head? sameBehind
  rw [List.head?_drop, List.head?_drop] at sameHead
  rw [lineText, line?, sameHead]
  rfl

/-- A buffer cut up where a line starts and behind a part of the line's own text. -/
theorem exists_front
    (isLine : number ≤ buffer.lastLine)
    (inOwn : count ≤ (buffer.lineText number).length) :
    ∃ ended line later,
      Text.lines buffer.text = ended ++ line :: later ∧
        ended.length = number ∧
          buffer.text.take (buffer.lineStart number) = ended.flatten ∧
            buffer.text =
              ended.flatten ++
                ((buffer.lineText number).take count ++
                  buffer.text.drop (buffer.lineStart number + count)) := by
  obtain ⟨ended, line, later, shape, rfl⟩ := exists_shape isLine
  obtain ⟨behind, isOwn⟩ := exists_drop_lineStart isLine
  have before : buffer.text.take (buffer.lineStart ended.length) = ended.flatten := by
    rw [lineStart_of_shape shape, Text.text_of_shape shape, List.take_left]
  refine ⟨ended, line, later, shape, rfl, before, ?_⟩
  have front :
      (buffer.lineText ended.length).take count =
        (buffer.text.drop (buffer.lineStart ended.length)).take count := by
    rw [isOwn, List.take_append_of_le_length inOwn]
  rw [front, ← List.drop_drop, List.take_append_drop, ← before, List.take_append_drop]

/-- A cut where a line starts splits no CR LF. -/
theorem breaksLost_zero (buffer : Buffer) (number : Nat) : buffer.breaksLost number 0 = 0 := by
  have isLine : min number buffer.lastLine ≤ buffer.lastLine := Nat.min_le_right _ _
  have starts : buffer.lineStart (min number buffer.lastLine) = buffer.lineStart number := by
    rw [lineStart, lineStart, Nat.min_assoc, Nat.min_self]
  obtain ⟨ended, line, later, shape, _, before, cut⟩ := exists_front isLine (Nat.zero_le _)
  have apart := (Text.cutBetween shape (List.cons_ne_nil line later)).apart
  have behind :
      (line :: later).flatten = buffer.text.drop (buffer.lineStart number + 0) := by
    rw [starts, List.take_zero, List.nil_append] at cut
    exact List.append_cancel_left ((Text.text_of_shape shape).symm.trans cut)
  rw [starts] at before
  rw [breaksLost, before, ← behind, List.take_zero, Text.lostBreaks, apart]
  rfl

/-- None is lost if there is none in what is taken out and no CR comes before a LF. -/
theorem breaksLost_eq_zero_iff (buffer : Buffer) (number count : Nat) :
    buffer.breaksLost number count = 0 ↔
      Text.HasNoBreak ((buffer.lineText number).take count) ∧
        Text.joinsBreak (buffer.text.take (buffer.lineStart number))
          (buffer.text.drop (buffer.lineStart number + count)) = false := by
  rw [breaksLost, Nat.add_eq_zero_iff, Text.breakCount_eq_zero_iff, Text.lostBreaks_eq_zero_iff]

section

variable
  (inOwn : count ≤ (buffer.lineText number).length)
  (taken :
    left.text =
      buffer.text.take (buffer.lineStart number) ++
        buffer.text.drop (buffer.lineStart number + count))

include inOwn taken

/--
The lines of the text that is left: if no break is lost, the line becomes what is left of it
and no other one is changed, and else the text goes on as it did further down.
-/
theorem exists_lines_of_front_taken (isLine : number ≤ buffer.lastLine) :
    ∃ ended line later,
      Text.lines buffer.text = ended ++ line :: later ∧
        ended.length = number ∧
          Text.breakCount left.text + buffer.breaksLost number count =
              Text.breakCount buffer.text ∧
            (buffer.breaksLost number count = 0 →
              Text.lines left.text = ended ++ line.drop count :: later) ∧
              (buffer.breaksLost number count ≠ 0 →
                (Text.lines left.text).drop number =
                  (Text.lines buffer.text).drop (number + buffer.breaksLost number count)) := by
  obtain ⟨ended, line, later, shape, rfl, before, cut⟩ := exists_front isLine inOwn
  have isFront := List.take_prefix count (buffer.lineText ended.length)
  have changed := Text.lines_without_front shape (lineText_of_shape shape ▸ isFront) cut
  rw [before] at taken
  rw [List.length_take_of_le inOwn, ← taken] at changed
  refine ⟨ended, line, later, shape, rfl, ?_⟩
  rw [breaksLost, before]
  exact changed

/-- Where there is no such line nothing is taken out. -/
theorem text_of_front_taken_of_not_isLine (notLine : ¬ number ≤ buffer.lastLine) :
    count = 0 ∧ left.text = buffer.text := by
  have isBehind : buffer.lineCount ≤ number := by
    unfold lastLine at notLine
    omega
  rw [lineText_of_not_exists isBehind] at inOwn
  obtain rfl : count = 0 := Nat.le_zero.mp inOwn
  rw [Nat.add_zero, List.take_append_drop] at taken
  exact ⟨rfl, taken⟩

/-- There are as many lines less as breaks are lost. -/
theorem lineCount_of_front_taken :
    left.lineCount + buffer.breaksLost number count = buffer.lineCount := by
  by_cases isLine : number ≤ buffer.lastLine
  · obtain ⟨_, _, _, _, _, counted, _⟩ := exists_lines_of_front_taken inOwn taken isLine
    have leftLines := Text.length_lines left.text
    have bufferLines := Text.length_lines buffer.text
    unfold lineCount Text.lineCount
    omega
  · obtain ⟨rfl, sameText⟩ := text_of_front_taken_of_not_isLine inOwn taken isLine
    rw [breaksLost_zero, Nat.add_zero, lineCount, lineCount, sameText]

/-- If no break is lost, the own text of the line becomes what is left of it. -/
theorem lineText_of_none_lost (noneLost : buffer.breaksLost number count = 0) :
    left.lineText number = (buffer.lineText number).drop count := by
  by_cases isLine : number ≤ buffer.lastLine
  · have noBreak := ((breaksLost_eq_zero_iff buffer number count).mp noneLost).1
    obtain ⟨ended, line, later, shape, rfl, _, kept, _⟩ :=
      exists_lines_of_front_taken inOwn taken isLine
    rw [lineText_of_shape shape] at inOwn noBreak
    rw [lineText_of_shape shape, lineText_of_shape (kept noneLost)]
    obtain ⟨ending, whole⟩ := Text.own_isPrefix line
    have sameFront := congrArg (List.take count) whole
    rw [List.take_append_of_le_length inOwn] at sameFront
    have parts :
        Text.withoutReturn line =
          (Text.withoutReturn line).take count ++ Text.withoutReturn (line.drop count) := by
      rw [← Text.withoutReturn_append noBreak, sameFront, List.take_append_drop]
    exact List.append_cancel_left (parts.symm.trans (List.take_append_drop count _).symm)
  · obtain ⟨rfl, sameText⟩ := text_of_front_taken_of_not_isLine inOwn taken isLine
    exact lineText_eq_of_drop (by rw [sameText])

/-- If breaks are lost, a line that stood as many lines further down takes the line's place. -/
theorem lineText_of_some_lost (someLost : buffer.breaksLost number count ≠ 0) :
    left.lineText number = buffer.lineText (number + buffer.breaksLost number count) := by
  by_cases isLine : number ≤ buffer.lastLine
  · obtain ⟨_, _, _, _, _, _, _, moved⟩ := exists_lines_of_front_taken inOwn taken isLine
    exact lineText_eq_of_drop (moved someLost)
  · obtain ⟨rfl, _⟩ := text_of_front_taken_of_not_isLine inOwn taken isLine
    exact absurd (breaksLost_zero buffer number) someLost

/-- If no break is lost, a place of the line moves with its text and stays on the line. -/
theorem lineOf_of_none_lost
    (noneLost : buffer.breaksLost number count = 0)
    (inText : place ≤ buffer.length)
    (onLine : buffer.lineOf place = number) :
    max (place - count) (buffer.lineStart number) ≤ left.length ∧
      left.lineOf (max (place - count) (buffer.lineStart number)) = number := by
  have isLine : number ≤ buffer.lastLine := onLine ▸ buffer.lineOf_le_lastLine place
  have noBreak := ((breaksLost_eq_zero_iff buffer number count).mp noneLost).1
  obtain ⟨ended, line, later, shape, rfl, _, kept, _⟩ :=
    exists_lines_of_front_taken inOwn taken isLine
  have leftShape := kept noneLost
  obtain ⟨others, _, _, placed, sameNumber, _⟩ := buffer.exists_onLine inText
  obtain ⟨rfl, sameLater⟩ :=
    List.append_inj (shape.symm.trans placed.lines_eq) (onLine.symm.trans sameNumber)
  obtain ⟨rfl, rfl⟩ := List.cons.inj sameLater
  have isFront := List.take_prefix count (buffer.lineText ended.length)
  have frontLength := List.length_take_of_le inOwn
  rw [lineText_of_shape shape] at isFront noBreak frontLength
  have starts := placed.starts
  have stops := placed.le_lineStop inText
  have moved :
      max (place - count) ended.flatten.length =
        ended.flatten.length + (place - ended.flatten.length - count) := by
    omega
  rw [lineStart_of_shape shape, moved]
  constructor
  · have leftWhole := congrArg List.length (Text.text_of_shape leftShape)
    rw [List.flatten_cons, List.length_append, List.length_append, List.length_drop] at leftWhole
    unfold length
    omega
  · apply lineOf_of_shape leftShape
    · rw [List.length_drop]
      omega
    · by_cases isLast : later = []
      · exact .inr isLast
      · have before := placed.stops.resolve_right isLast
        have someLeft := Text.length_front_lt shape isLast isFront noBreak
        left
        rw [List.length_drop]
        omega

end

end Buffer

end ChordEditor
