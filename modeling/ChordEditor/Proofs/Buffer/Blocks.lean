import ChordEditor.Proofs.Buffer.LineOrder
import ChordEditor.Proofs.Buffer.Ranges
import ChordEditor.Proofs.Text.Blocks

namespace ChordEditor.Buffer

/-!
# Blocks of lines in a buffer

A block of lines is deleted with one break: the one behind it, or at the end of the text
the one before it.  The cursor then goes to the line that has taken the place of the
block, or to the last line, and from there the block can be pasted back above or below.
-/

section Shape

variable
  {buffer : Buffer}
  {line : List Char}
  {ended later : List (List Char)}

theorem lastLine_of_shape
    {all : List (List Char)}
    (shape : Text.lines buffer.text = all) :
    buffer.lastLine = all.length - 1 := by
  unfold lastLine lineCount Text.lineCount
  rw [shape]

variable (shape : Text.lines buffer.text = ended ++ line :: later)

include shape

theorem lineText_of_shape : buffer.lineText ended.length = Text.withoutReturn line := by
  unfold lineText line?
  rw [shape]
  simp

theorem lineStart_of_shape : buffer.lineStart ended.length = ended.flatten.length := by
  have isLine : ended.length ≤ buffer.lastLine := by
    rw [lastLine_of_shape shape]
    simp
  unfold lineStart Text.lineStartIn
  rw [Nat.min_eq_left isLine, shape, List.take_left]

theorem lineOf_of_shape
    {column : Nat}
    (onLine : column ≤ line.length)
    (stops : column < line.length ∨ later = []) :
    buffer.lineOf (ended.flatten.length + column) = ended.length := by
  have whole := congrArg List.length (Text.flatten_lines buffer.text)
  rw [shape, List.flatten_append, List.flatten_cons, List.length_append,
    List.length_append] at whole
  have inText : ended.flatten.length + column ≤ buffer.length := by
    unfold length
    omega
  unfold lineOf
  rw [clamp_of_le inText]
  exact (Text.onLine_of_shape shape onLine stops).lineOf_eq

/-- The first character of a line that is not blank is on the line, unless that is all blank. -/
theorem lineOf_firstNonBlank
    (notBlank :
      Text.isBlankText (Text.withoutReturn line) = true →
        Text.HasNoBreak (Text.withoutReturn line)) :
    buffer.lineOf (buffer.firstNonBlank ended.length) = ended.length := by
  have within := Text.length_leadingBlank_le (Text.withoutReturn line)
  have ownWithin := Text.length_withoutReturn_le line
  have stops :
      (Text.leadingBlank (Text.withoutReturn line)).length < line.length ∨ later = [] := by
    by_cases blank : Text.isBlankText (Text.withoutReturn line) = true
    · obtain ⟨ending, whole, isEnding⟩ := Text.line_of_plain shape (notBlank blank)
      have longer := congrArg List.length whole
      rw [List.length_append] at longer
      rcases isEnding with rfl | rfl | rfl | ⟨_, isLast⟩
      · left
        rw [List.length_singleton] at longer
        omega
      · left
        rw [List.length_singleton] at longer
        omega
      · left
        rw [List.length_cons] at longer
        omega
      · exact .inr isLast
    · left
      have shorter :
          (Text.leadingBlank (Text.withoutReturn line)).length ≠
            (Text.withoutReturn line).length := by
        intro sameLength
        have isPrefix : Text.leadingBlank (Text.withoutReturn line) <+: Text.withoutReturn line :=
          List.takeWhile_prefix Text.isBlank
        have whole := isPrefix.eq_of_length sameLength
        apply blank
        unfold Text.isBlankText
        rw [← whole]
        exact List.all_takeWhile
      omega
  unfold firstNonBlank
  rw [lineStart_of_shape shape, lineText_of_shape shape]
  exact lineOf_of_shape shape (Nat.le_trans within ownWithin) stops

end Shape

section Block

/-- The lines of a buffer cut up before and behind some of them. -/
structure CutUp
    (buffer : Buffer)
    (lines : LineRange)
    (earlier block later : List (List Char)) : Prop where
  shape : Text.lines buffer.text = earlier ++ (block ++ later)
  ordered : lines.first ≤ lines.last
  first : earlier.length = lines.first
  last : earlier.length + block.length = lines.last + 1

variable
  {buffer : Buffer}
  {lines : LineRange}
  {earlier block later : List (List Char)}

theorem exists_cutUp
    (ordered : lines.first ≤ lines.last)
    (isLine : lines.last ≤ buffer.lastLine) :
    ∃ earlier block later, buffer.CutUp lines earlier block later := by
  have counted : buffer.lastLine = (Text.lines buffer.text).length - 1 := lastLine_of_shape rfl
  have someLine := List.length_pos_iff.mpr (Text.lines_ne_nil buffer.text)
  refine
    ⟨(Text.lines buffer.text).take lines.first,
      ((Text.lines buffer.text).drop lines.first).take (lines.last + 1 - lines.first),
      (Text.lines buffer.text).drop (lines.last + 1), ?_, ordered, ?_, ?_⟩
  · have behind :
        (Text.lines buffer.text).drop (lines.last + 1) =
          ((Text.lines buffer.text).drop lines.first).drop (lines.last + 1 - lines.first) := by
      rw [List.drop_drop]
      congr 1
      omega
    rw [behind, List.take_append_drop, List.take_append_drop]
  · rw [List.length_take]
    omega
  · rw [List.length_take, List.length_take, List.length_drop]
    omega

namespace CutUp

variable (cutUp : buffer.CutUp lines earlier block later)

include cutUp

theorem text_eq : buffer.text = earlier.flatten ++ (block.flatten ++ later.flatten) := by
  rw [← Text.flatten_lines buffer.text, cutUp.shape, List.flatten_append, List.flatten_append]

theorem lastLine_eq : buffer.lastLine + 1 = lines.last + 1 + later.length := by
  have counted := lastLine_of_shape cutUp.shape
  have someLine := List.length_pos_iff.mpr (Text.lines_ne_nil buffer.text)
  have last := cutUp.last
  rw [cutUp.shape] at someLine
  rw [List.length_append, List.length_append] at counted someLine
  omega

theorem block_ne_nil : block ≠ [] := by
  rintro rfl
  have ordered := cutUp.ordered
  have first := cutUp.first
  have last := cutUp.last
  rw [List.length_nil] at last
  omega

/-- The lines of the block are kept with a LF behind each of them. -/
theorem linesText_eq : buffer.linesText lines.first lines.last = Text.kept block := by
  have whole : (earlier ++ block).length = lines.last + 1 := by
    rw [List.length_append]
    exact cutUp.last
  have chosen :
      (buffer.lineTexts.take (lines.last + 1)).drop lines.first =
        block.map Text.withoutReturn := by
    unfold lineTexts
    rw [cutUp.shape, ← List.append_assoc, ← List.map_take, ← whole, List.take_left,
      ← List.map_drop, ← cutUp.first, List.drop_left]
  unfold linesText Text.kept
  rw [chosen, List.flatMap_map]

/-- The own text of a line of the block. -/
theorem lineText_mem
    {line : List Char}
    (isIn : line ∈ block) :
    ∃ number,
      lines.first ≤ number ∧
        number ≤ lines.last ∧ buffer.lineText number = Text.withoutReturn line := by
  obtain ⟨before, behind, rfl⟩ := List.append_of_mem isIn
  have last := cutUp.last
  have first := cutUp.first
  have shape : Text.lines buffer.text = (earlier ++ before) ++ line :: (behind ++ later) := by
    rw [cutUp.shape]
    simp
  rw [List.length_append, List.length_cons] at last
  refine ⟨(earlier ++ before).length, ?_, ?_, lineText_of_shape shape⟩
  · rw [List.length_append]
    omega
  · rw [List.length_append]
    omega

end CutUp

/-- Before some other line a block is deleted with the break behind it. -/
theorem CutUp.lineSpan_before_line
    {next : List Char}
    {others : List (List Char)}
    (cutUp : buffer.CutUp lines earlier block (next :: others)) :
    buffer.lineSpan lines.first lines.last =
      ⟨earlier.flatten.length, (earlier ++ block).flatten.length⟩ := by
  have shape : Text.lines buffer.text = (earlier ++ block) ++ next :: others := by
    rw [cutUp.shape, List.append_assoc]
  have counted := cutUp.lastLine_eq
  have first := cutUp.first
  have last := cutUp.last
  rw [List.length_cons] at counted
  have start : buffer.lineStart lines.first = earlier.flatten.length := by
    rw [← first]
    obtain ⟨line, rest, isFirst⟩ :=
      List.exists_cons_of_ne_nil
        (List.append_ne_nil_of_right_ne_nil block (List.cons_ne_nil next others))
    exact lineStart_of_shape (cutUp.shape.trans (by rw [isFirst]))
  have stop : buffer.lineStart (lines.last + 1) = (earlier ++ block).flatten.length := by
    rw [← last, ← List.length_append]
    exact lineStart_of_shape shape
  unfold lineSpan
  dsimp only
  rw [Nat.min_eq_left (by omega), Nat.min_eq_left (by omega), if_pos (by omega), start, stop]

/-- At the end of the text a block is deleted with the break before it. -/
theorem CutUp.lineSpan_at_end
    {previous : List Char}
    (cutUp : buffer.CutUp lines (earlier ++ [previous]) block []) :
    buffer.lineSpan lines.first lines.last =
      ⟨earlier.flatten.length + (Text.withoutReturn previous).length, buffer.length⟩ := by
  have shape : Text.lines buffer.text = earlier ++ previous :: block := by
    rw [cutUp.shape]
    simp
  have counted := cutUp.lastLine_eq
  have ordered := cutUp.ordered
  have first := cutUp.first
  have last := cutUp.last
  rw [List.length_append, List.length_singleton] at first
  rw [List.length_append, List.length_singleton] at last
  rw [List.length_nil] at counted
  have lineEnd :
      buffer.lineEnd (lines.first - 1) =
        earlier.flatten.length + (Text.withoutReturn previous).length := by
    have isPrevious : min (lines.first - 1) buffer.lastLine = earlier.length := by
      omega
    unfold Buffer.lineEnd lineLength
    rw [isPrevious]
    dsimp only
    rw [lineStart_of_shape shape, lineText_of_shape shape]
  unfold lineSpan
  dsimp only
  rw [Nat.min_eq_left (by omega), Nat.min_eq_left (by omega), if_neg (by omega),
    if_pos (by omega), lineEnd]

/-- What a block is kept as ends in LF. -/
theorem linesText_ends_in_newline
    (ordered : lines.first ≤ lines.last)
    (isLine : lines.last ≤ buffer.lastLine) :
    ∃ text, buffer.linesText lines.first lines.last = text ++ ['\n'] := by
  obtain ⟨earlier, block, later, cutUp⟩ := exists_cutUp ordered isLine
  have someBlock : block ≠ [] := cutUp.block_ne_nil
  obtain ⟨init, last, rfl⟩ : ∃ init last, block = init ++ [last] :=
    ⟨_, _, (List.dropLast_concat_getLast someBlock).symm⟩
  refine ⟨Text.kept init ++ Text.withoutReturn last, ?_⟩
  rw [cutUp.linesText_eq]
  simp [Text.kept]

/--
Whether the deletion of a block leaves the other lines alone, and is kept in full: the
breaks that go with the block are LF, CR or CR LF, no CR before it comes to stand before
a LF behind it, and the line behind it is not all blank with another break at its end.
-/
structure Detachable (buffer : Buffer) (lines : LineRange) : Prop where
  breaks :
    ∀ line,
      lines.first ≤ line ∨ lines.last = buffer.lastLine ∧ lines.first = line + 1 →
        line ≤ lines.last → Text.HasNoBreak (buffer.lineText line)
  apart :
    Text.joinsBreak
      (buffer.text.take (buffer.lineSpan lines.first lines.last).start)
      (buffer.text.drop (buffer.lineSpan lines.first lines.last).stop) = false
  next :
    Text.isBlankText (buffer.lineText (lines.last + 1)) = true →
      Text.HasNoBreak (buffer.lineText (lines.last + 1))

/-- In a text whose breaks are all LF, CR or CR LF only a CR and a LF can come together. -/
theorem detachable_of_returns
    (returns : (buffer.text.filter Text.isLineBreak).all Text.isReturn = true)
    (apart :
      Text.joinsBreak
        (buffer.text.take (buffer.lineSpan lines.first lines.last).start)
        (buffer.text.drop (buffer.lineSpan lines.first lines.last).stop) = false) :
    buffer.Detachable lines := by
  have plain (number : Nat) : Text.HasNoBreak (buffer.lineText number) := by
    unfold lineText line?
    cases found : (Text.lines buffer.text)[number]? with
    | none =>
        exact Text.hasNoBreak_nil
    | some line =>
        have isLine := List.mem_of_getElem? found
        obtain ⟨ended, later, shape⟩ := List.append_of_mem isLine
        intro c isOwn
        have inText : c ∈ buffer.text := by
          rw [← Text.flatten_lines buffer.text]
          exact List.mem_flatten.mpr ⟨line, isLine, (Text.own_isPrefix line).mem isOwn⟩
        have noReturn := Text.own_hasNoReturn shape c isOwn
        cases isBreak : Text.isLineBreak c with
        | false => rfl
        | true =>
            have isReturn :=
              List.all_eq_true.mp returns c (List.mem_filter.mpr ⟨inText, isBreak⟩)
            rw [noReturn] at isReturn
            contradiction
  exact ⟨fun number _ _ => plain number, apart, fun _ => plain _⟩

/-- The text with the breaks that were deleted with a block made LF. -/
def withNewlinesIn (buffer : Buffer) (span : Span) : List Char :=
  buffer.text.take span.start ++ Text.withNewlines (buffer.slice span.start span.stop) ++
    buffer.text.drop span.stop

/-- It is the text as it was exactly if no CR was deleted. -/
theorem withNewlinesIn_eq_iff
    {span : Span}
    (isRange : span.start ≤ span.stop) :
    buffer.withNewlinesIn span = buffer.text ↔ '\r' ∉ buffer.slice span.start span.stop := by
  have parts := buffer.text_around_slice isRange
  rw [← Text.withNewlines_eq_iff]
  constructor
  · intro same
    rw [← parts] at same
    exact List.append_cancel_left (List.append_cancel_right same)
  · intro same
    rw [withNewlinesIn, same]
    exact parts

/-- What is pasted above the line that took the place of a block puts the block back. -/
theorem pasted_above
    (ordered : lines.first ≤ lines.last)
    (followed : lines.last < buffer.lastLine)
    (detachable : buffer.Detachable lines)
    {emptied : Buffer}
    (taken :
      emptied.text =
        buffer.text.take (buffer.lineSpan lines.first lines.last).start ++
          buffer.text.drop (buffer.lineSpan lines.first lines.last).stop)
    {line : Nat}
    (isLine :
      line = emptied.lineOf (emptied.firstNonBlank (min lines.first emptied.lastLine))) :
    emptied.text.take (emptied.lineStart line) ++ buffer.linesText lines.first lines.last ++
        emptied.text.drop (emptied.lineStart line) =
      buffer.withNewlinesIn (buffer.lineSpan lines.first lines.last) := by
  obtain ⟨earlier, block, later, cutUp⟩ := exists_cutUp ordered (Nat.le_of_lt followed)
  obtain ⟨breaks, apart, notBlank⟩ := detachable
  have counted := cutUp.lastLine_eq
  cases later with
  | nil =>
      rw [List.length_nil] at counted
      omega
  | cons next others =>
      have text := cutUp.text_eq
      have nextShape : Text.lines buffer.text = (earlier ++ block) ++ next :: others := by
        rw [cutUp.shape, List.append_assoc]
      have nextLine : (earlier ++ block).length = lines.last + 1 := by
        rw [List.length_append]
        exact cutUp.last
      have before : buffer.text.take earlier.flatten.length = earlier.flatten := by
        rw [text, List.take_left]
      have behind :
          buffer.text.drop (earlier ++ block).flatten.length = (next :: others).flatten := by
        rw [text, List.flatten_append, ← List.append_assoc, List.drop_left]
      have cut :
          buffer.slice earlier.flatten.length (earlier ++ block).flatten.length =
            block.flatten := by
        rw [slice, text, ← List.append_assoc, List.flatten_append, List.take_left,
          List.drop_left]
      rw [cutUp.lineSpan_before_line] at apart taken ⊢
      dsimp only at apart taken ⊢
      rw [before, behind] at apart taken
      have shape : Text.lines emptied.text = earlier ++ next :: others := by
        rw [taken]
        exact Text.lines_without_block cutUp.shape (List.cons_ne_nil next others) apart
      have isFirst : min lines.first emptied.lastLine = earlier.length := by
        have lineCount := lastLine_of_shape shape
        rw [List.length_append, List.length_cons] at lineCount
        have first := cutUp.first
        omega
      rw [← nextLine, lineText_of_shape nextShape] at notBlank
      rw [isFirst, lineOf_firstNonBlank shape notBlank] at isLine
      have whole :
          Text.withNewlines block.flatten = Text.kept block := by
        have cutOff := Text.cutBetween cutUp.shape (by simp)
        have plain : ∀ line ∈ block, Text.HasNoBreak (Text.withoutReturn line) := by
          intro line isIn
          obtain ⟨number, starts, ends, own⟩ := cutUp.lineText_mem isIn
          rw [← own]
          exact breaks number (.inl starts) ends
        have made :=
          Text.withNewlines_block cutOff.lines_eq (List.cons_ne_nil next others) plain
            List.nil_prefix
        rwa [List.append_nil, Text.withNewlines, List.append_nil] at made
      rw [isLine, lineStart_of_shape shape, taken, List.take_left, List.drop_left,
        cutUp.linesText_eq, withNewlinesIn, before, behind, cut, whole]

/-- What is pasted below the last line that is left puts a block at the end back. -/
theorem pasted_below
    (ordered : lines.first ≤ lines.last)
    (atEnd : lines.last = buffer.lastLine)
    (notAll : 0 < lines.first)
    (detachable : buffer.Detachable lines)
    {emptied : Buffer}
    (taken :
      emptied.text =
        buffer.text.take (buffer.lineSpan lines.first lines.last).start ++
          buffer.text.drop (buffer.lineSpan lines.first lines.last).stop) :
    emptied.lineOf (emptied.firstNonBlank (min lines.first emptied.lastLine)) =
        emptied.lastLine ∧
      emptied.text ++ '\n' :: (buffer.linesText lines.first lines.last).dropLast =
        buffer.withNewlinesIn (buffer.lineSpan lines.first lines.last) := by
  obtain ⟨earlier, block, later, cutUp⟩ := exists_cutUp ordered (Nat.le_of_eq atEnd)
  have counted := cutUp.lastLine_eq
  obtain rfl : later = [] := List.length_eq_zero_iff.mp (by omega)
  have someEarlier : earlier ≠ [] := by
    rintro rfl
    have first := cutUp.first
    rw [List.length_nil] at first
    omega
  obtain ⟨before, previous, rfl⟩ : ∃ before previous, earlier = before ++ [previous] :=
    ⟨_, _, (List.dropLast_concat_getLast someEarlier).symm⟩
  have someBlock : block ≠ [] := cutUp.block_ne_nil
  obtain ⟨init, last, rfl⟩ : ∃ init last, block = init ++ [last] :=
    ⟨_, _, (List.dropLast_concat_getLast someBlock).symm⟩
  have shape : Text.lines buffer.text = before ++ previous :: (init ++ [last]) := by
    rw [cutUp.shape]
    simp
  have previousLine : lines.first = before.length + 1 := by
    rw [← cutUp.first, List.length_append, List.length_singleton]
  have plain : ∀ line ∈ previous :: init, Text.HasNoBreak (Text.withoutReturn line) := by
    intro line isIn
    rcases List.mem_cons.mp isIn with rfl | inBlock
    · rw [← lineText_of_shape shape]
      exact detachable.breaks _ (.inr ⟨atEnd, previousLine⟩) (by omega)
    · obtain ⟨number, starts, ends, own⟩ :=
        cutUp.lineText_mem (List.mem_append_left [last] inBlock)
      rw [← own]
      exact detachable.breaks number (.inl starts) ends
  have plainPrevious := plain previous List.mem_cons_self
  obtain ⟨ending, whole, _⟩ := Text.line_of_plain shape plainPrevious
  have text :
      buffer.text =
        (before.flatten ++ Text.withoutReturn previous) ++
          (ending ++ (init ++ [last]).flatten) := by
    rw [← Text.flatten_lines buffer.text, shape, List.flatten_append, List.flatten_cons,
      List.append_assoc, ← List.append_assoc (Text.withoutReturn previous), ← whole]
  have kept :
      before.flatten.length + (Text.withoutReturn previous).length =
        (before.flatten ++ Text.withoutReturn previous).length := by
    rw [List.length_append]
  have isBefore :
      buffer.text.take (before.flatten ++ Text.withoutReturn previous).length =
        before.flatten ++ Text.withoutReturn previous := by
    rw [text, List.take_left]
  have cut :
      buffer.slice (before.flatten ++ Text.withoutReturn previous).length buffer.length =
        ending ++ (init ++ [last]).flatten := by
    rw [slice, length, List.take_length, text, List.drop_left]
  rw [cutUp.lineSpan_at_end, kept] at taken ⊢
  dsimp only at taken ⊢
  rw [isBefore, length, List.drop_length, List.append_nil] at taken
  have emptiedShape : Text.lines emptied.text = before ++ [Text.withoutReturn previous] := by
    rw [taken]
    exact Text.lines_without_last_block shape plainPrevious
  have lastLeft : emptied.lastLine = before.length := by
    rw [lastLine_of_shape emptiedShape, List.length_append, List.length_singleton,
      Nat.add_sub_cancel]
  constructor
  · rw [lastLeft, previousLine, Nat.min_eq_right (Nat.le_succ _)]
    apply lineOf_firstNonBlank emptiedShape
    intro _
    exact Text.hasNoBreak_of_isPrefix (Text.own_isPrefix _) plainPrevious
  · rw [cutUp.linesText_eq, withNewlinesIn, isBefore, cut, taken,
      Text.withNewlines_last_block shape plain whole, length, List.drop_length,
      List.append_nil]

end Block

end ChordEditor.Buffer
