import ChordEditor.Proofs.Buffer.ListedLines

namespace ChordEditor

/-!
# Blocks of a list of lines

Where LF alone ends lines, a block of lines that is taken out of a text with one break is
taken out of its list of lines, and lines with a LF behind each that are inserted where a
line starts are put into the list there.  The last line has no break of its own, so that
the break in front of it goes with it, and comes with what is put behind it.
-/

namespace Text

/-- Lines with a LF behind each of them. -/
def ended (own : List (List Char)) : List Char :=
  own.flatMap (· ++ ['\n'])

theorem ended_append (first second : List (List Char)) :
    ended (first ++ second) = ended first ++ ended second :=
  List.flatMap_append

theorem ended_flatten_replicate
    (count : Nat)
    (own : List (List Char)) :
    ended (List.replicate count own).flatten =
      (List.replicate count (ended own)).flatten := by
  induction count with
  | zero =>
      rfl
  | succ count inductionHypothesis =>
      rw [List.replicate_succ, List.replicate_succ, List.flatten_cons, List.flatten_cons,
        ended_append, inductionHypothesis]

/-- Lines in front of others are joined to them with a LF behind each. -/
theorem intercalate_append
    {later : List (List Char)}
    (someLine : later ≠ [])
    (earlier : List (List Char)) :
    List.intercalate ['\n'] (earlier ++ later) =
      ended earlier ++ List.intercalate ['\n'] later := by
  obtain ⟨line, more, rfl⟩ := List.exists_cons_of_ne_nil someLine
  have alone := intercalate_around [] more line
  rw [intercalate_around, ended, List.append_assoc]
  exact congrArg _ alone.symm

/-- Lines with a LF behind each are the lines joined, with one LF more. -/
theorem ended_eq_intercalate
    {own : List (List Char)}
    (someLine : own ≠ []) :
    ended own = List.intercalate ['\n'] own ++ ['\n'] := by
  obtain ⟨init, last, rfl⟩ : ∃ init last, own = init ++ [last] :=
    ⟨_, _, (List.dropLast_concat_getLast someLine).symm⟩
  rw [intercalate_append (List.cons_ne_nil last []), List.intercalate_singleton, ended_append,
    List.append_assoc]
  exact congrArg (ended init ++ ·) (List.append_nil _)

end Text

namespace Buffer.HasLines

variable
  {buffer changed : Buffer}
  {earlier block later : List (List Char)}

/-- The place where a line starts, behind those before it. -/
theorem lineStart_append
    (hasLines : buffer.HasLines (earlier ++ later))
    (someLine : later ≠ []) :
    buffer.lineStart earlier.length = (Text.ended earlier).length := by
  obtain ⟨line, more, rfl⟩ := List.exists_cons_of_ne_nil someLine
  exact hasLines.lineStart_eq

/-- A text that is other lines joined has these lines, if none of them has a break. -/
theorem of_subset
    {own others : List (List Char)}
    (hasLines : buffer.HasLines own)
    (subset : others ⊆ own)
    (someLine : others ≠ [])
    (text : changed.text = List.intercalate ['\n'] others) :
    changed.HasLines others :=
  ⟨text, someLine, fun line isLine => hasLines.noBreak line (subset isLine)⟩

/-- Before some other line a block is taken out with the breaks behind its lines. -/
theorem text_without_block_before
    (hasLines : buffer.HasLines (earlier ++ (block ++ later)))
    (someBlock : block ≠ [])
    (someLater : later ≠ []) :
    let span := buffer.lineSpan earlier.length (earlier.length + block.length - 1)
    buffer.text.take span.start ++ buffer.text.drop span.stop =
      List.intercalate ['\n'] (earlier ++ later) := by
  have nextHas : buffer.HasLines ((earlier ++ block) ++ later) := by
    rwa [List.append_assoc]
  have someLine := List.length_pos_iff.mpr someBlock
  have otherLine := List.length_pos_iff.mpr someLater
  have counted := nextHas.lineCount_eq
  rw [List.length_append, List.length_append] at counted
  have starts := hasLines.lineStart_append (List.append_ne_nil_of_right_ne_nil block someLater)
  have stops := nextHas.lineStart_append someLater
  rw [List.length_append] at stops
  have isSpan :
      buffer.lineSpan earlier.length (earlier.length + block.length - 1) =
        ⟨(Text.ended earlier).length, (Text.ended (earlier ++ block)).length⟩ := by
    unfold lineSpan lastLine
    dsimp only
    rw [Nat.min_eq_left (by omega), Nat.min_eq_left (by omega), if_pos (by omega), starts,
      Nat.sub_add_cancel (by omega), stops]
  have front : buffer.text.take (Text.ended earlier).length = Text.ended earlier := by
    rw [hasLines.text, Text.intercalate_append (List.append_ne_nil_of_right_ne_nil _ someLater),
      List.take_left]
  have behind :
      buffer.text.drop (Text.ended (earlier ++ block)).length =
        List.intercalate ['\n'] later := by
    rw [nextHas.text, Text.intercalate_append someLater, List.drop_left]
  rw [isSpan]
  dsimp only
  rw [front, behind, Text.intercalate_append someLater]

/-- At the end of the text a block is taken out with the break in front of it. -/
theorem text_without_block_behind
    (hasLines : buffer.HasLines (earlier ++ block))
    (someBlock : block ≠ [])
    (someEarlier : earlier ≠ []) :
    let span := buffer.lineSpan earlier.length (earlier.length + block.length - 1)
    buffer.text.take span.start ++ buffer.text.drop span.stop =
      List.intercalate ['\n'] earlier := by
  obtain ⟨init, previous, rfl⟩ : ∃ init previous, earlier = init ++ [previous] :=
    ⟨_, _, (List.dropLast_concat_getLast someEarlier).symm⟩
  have previousHas : buffer.HasLines (init ++ previous :: block) := by
    rwa [List.append_assoc] at hasLines
  have counted := previousHas.lastLine_eq
  have someLine := List.length_pos_iff.mpr someBlock
  have lineEnd :
      buffer.lineEnd init.length = (List.intercalate ['\n'] (init ++ [previous])).length := by
    rw [lineEnd_eq (by omega), previousHas.lineStart_eq, previousHas.lineText_eq,
      Text.intercalate_append (List.cons_ne_nil previous []), List.intercalate_singleton,
      List.length_append]
    rfl
  have isSpan :
      buffer.lineSpan (init ++ [previous]).length
          ((init ++ [previous]).length + block.length - 1) =
        ⟨(List.intercalate ['\n'] (init ++ [previous])).length, buffer.length⟩ := by
    rw [← lineEnd, List.length_append, List.length_singleton]
    unfold lineSpan
    dsimp only
    rw [Nat.min_eq_left (by omega), Nat.min_eq_left (by omega), if_neg (by omega),
      if_pos (by omega), Nat.add_sub_cancel]
  have front :
      buffer.text =
        List.intercalate ['\n'] (init ++ [previous]) ++ block.flatMap ('\n' :: ·) := by
    rw [previousHas.text, Text.intercalate_around, Text.intercalate_around, List.flatMap_nil,
      List.append_nil]
  rw [isSpan]
  dsimp only
  rw [length, List.drop_length, List.append_nil, front, List.take_left]

/-- A block of all lines is taken out with all of the text. -/
theorem text_without_block_all
    (hasLines : buffer.HasLines block) :
    let span := buffer.lineSpan 0 (block.length - 1)
    buffer.text.take span.start ++ buffer.text.drop span.stop = [] := by
  have counted := hasLines.lineCount_eq
  have isSpan : buffer.lineSpan 0 (block.length - 1) = ⟨0, buffer.length⟩ := by
    unfold lineSpan lastLine
    dsimp only
    rw [if_neg (by omega), if_neg (by omega)]
  rw [isSpan]
  dsimp only
  rw [length, List.drop_length, List.take_zero, List.append_nil]

/--
What is left when a block of lines is taken out with one break: the lines in front of it
and behind it, or one line with nothing in it.
-/
theorem without_block
    (hasLines : buffer.HasLines (earlier ++ (block ++ later)))
    (someBlock : block ≠ [])
    (taken :
      let span := buffer.lineSpan earlier.length (earlier.length + block.length - 1)
      changed.text = buffer.text.take span.start ++ buffer.text.drop span.stop) :
    changed.HasLines (if earlier ++ later = [] then [[]] else earlier ++ later) := by
  have kept : earlier ++ later ⊆ earlier ++ (block ++ later) :=
    ((List.sublist_append_right block later).append_left earlier).subset
  by_cases someLater : later = []
  · subst someLater
    rw [List.append_nil, List.append_nil] at kept
    rw [List.append_nil] at hasLines ⊢
    by_cases someEarlier : earlier = []
    · subst someEarlier
      rw [if_pos rfl]
      rw [List.length_nil, Nat.zero_add] at taken
      refine ⟨taken.trans (text_without_block_all hasLines), List.cons_ne_nil _ _, ?_⟩
      simp
    · rw [if_neg someEarlier]
      exact hasLines.of_subset kept someEarlier
        (taken.trans (hasLines.text_without_block_behind someBlock someEarlier))
  · have someLine := List.append_ne_nil_of_right_ne_nil earlier someLater
    rw [if_neg someLine]
    exact hasLines.of_subset kept someLine
      (taken.trans (hasLines.text_without_block_before someBlock someLater))

/-- The lines of a block are stored with a LF behind each. -/
theorem linesText_eq
    (hasLines : buffer.HasLines (earlier ++ (block ++ later)))
    (someBlock : block ≠ []) :
    buffer.linesText earlier.length (earlier.length + block.length - 1) = Text.ended block := by
  have someLine := List.length_pos_iff.mpr someBlock
  rw [linesText, hasLines.lineTexts_eq, Nat.sub_add_cancel (by omega), ← List.append_assoc,
    ← List.length_append, List.take_left, List.drop_left]
  rfl

section Inserted

variable
  {own lines : List (List Char)}
  (noBreak : ∀ line ∈ lines, Text.HasNoBreak line)

include noBreak

/-- Lines are inserted in front of a line. -/
theorem exists_inserted_lines
    (hasLines : buffer.HasLines own)
    {number : Nat}
    (isNumber : number < own.length) :
    ∃ changed,
      buffer.insert (buffer.lineStart number) (Text.ended lines) = .ok changed ∧
        changed.HasLines (own.take number ++ lines ++ own.drop number) := by
  have parts : buffer.HasLines (own.take number ++ own.drop number) := by
    rwa [List.take_append_drop]
  have someLater : own.drop number ≠ [] := by
    rw [Ne, List.drop_eq_nil_iff]
    exact Nat.not_le_of_lt isNumber
  have starts := parts.lineStart_append someLater
  rw [List.length_take, Nat.min_eq_left (Nat.le_of_lt isNumber)] at starts
  obtain ⟨changed, inserted⟩ := insert_accepted_iff.mpr (buffer.lineStart_le number)
  refine ⟨changed, inserted, ?_, List.append_ne_nil_of_right_ne_nil _ someLater, ?_⟩
  · rw [text_of_insert inserted, starts, parts.text, Text.intercalate_append someLater,
      List.take_left, List.drop_left, Text.intercalate_append someLater, Text.ended_append]
  · have ownNoBreak := parts.noBreak
    simp only [List.forall_mem_append] at ownNoBreak ⊢
    exact ⟨⟨ownNoBreak.1, noBreak⟩, ownNoBreak.2⟩

/-- Lines are inserted behind the last line. -/
theorem exists_appended_lines
    (hasLines : buffer.HasLines own)
    (someLine : lines ≠ []) :
    ∃ changed,
      buffer.insert buffer.length ('\n' :: List.intercalate ['\n'] lines) = .ok changed ∧
        changed.HasLines (own ++ lines) := by
  obtain ⟨changed, inserted⟩ := insert_accepted_iff.mpr (Nat.le_refl buffer.length)
  refine ⟨changed, inserted, ?_, List.append_ne_nil_of_right_ne_nil _ someLine, ?_⟩
  · rw [text_of_insert inserted, length, List.take_length, List.drop_length, List.append_nil,
      Text.intercalate_append someLine, Text.ended_eq_intercalate hasLines.someLine,
      ← hasLines.text, List.append_assoc]
    rfl
  · simp only [List.forall_mem_append]
    exact ⟨hasLines.noBreak, noBreak⟩

end Inserted

/-- The first character of a line that is not blank is on the line. -/
theorem lineOf_firstNonBlank
    {own : List (List Char)}
    (hasLines : buffer.HasLines own)
    {number : Nat}
    (isLine : number < own.length) :
    buffer.lineOf (buffer.firstNonBlank number) = number := by
  have counted := hasLines.lineCount_eq
  have isNumber : number ≤ buffer.lastLine := by
    unfold lastLine
    omega
  rw [lineOf_firstNonBlank_eq_min hasLines.onlyNewlines, Nat.min_eq_left isNumber]

end Buffer.HasLines

end ChordEditor
