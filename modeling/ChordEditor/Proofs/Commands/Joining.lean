import ChordEditor.Proofs.Buffer.ListedLines
import ChordEditor.Proofs.Commands.Pasting
import ChordEditor.Proofs.Text.Trimmed

namespace ChordEditor

/-!
# Lines that are joined

Each turn of a join makes one line of two, as long as there is a line below.  So joining
takes the next few lines of a text into the line of the cursor, one after the other.
-/

namespace Buffer

/-- The first character that is not blank is missing exactly in a line of blanks. -/
theorem firstNonBlank_eq_lineEnd_iff
    {buffer : Buffer}
    {number : Nat}
    (isLine : number ≤ buffer.lastLine) :
    buffer.firstNonBlank number = buffer.lineEnd number ↔
      Text.isBlankText (buffer.lineText number) = true := by
  have within := Text.length_leadingBlank_le (buffer.lineText number)
  rw [firstNonBlank, lineEnd_eq isLine, ← Text.length_le_leadingBlank_iff]
  omega

/-- What lies between the contents of two lines gives way to another text. -/
theorem HasLines.exists_replaced_seam
    {buffer : Buffer}
    {line next : List Char}
    {earlier later : List (List Char)}
    (hasLines : buffer.HasLines (earlier ++ line :: next :: later))
    (piece : List Char) :
    ∃ between changed,
      buffer.replace (buffer.lineStart earlier.length + (Text.trimEnd line).length)
          (buffer.firstNonBlank (earlier.length + 1)) piece = .ok (between, changed) ∧
        changed.text =
          earlier.flatMap (· ++ ['\n']) ++
              (Text.trimEnd line ++ piece ++ Text.trimStart next) ++
            later.flatMap ('\n' :: ·) := by
  have nextHas : buffer.HasLines ((earlier ++ [line]) ++ next :: later) := by
    rwa [List.append_assoc]
  have nextNumber : (earlier ++ [line]).length = earlier.length + 1 := by
    rw [List.length_append, List.length_singleton]
  obtain ⟨behind, lineParts⟩ := List.rdropWhile_prefix Text.isBlank line
  have nextParts := Text.leadingBlank_append_trimStart next
  change Text.trimEnd line ++ behind = line at lineParts
  have shape :
      buffer.text =
        (earlier.flatMap (· ++ ['\n']) ++ Text.trimEnd line) ++
            (behind ++ '\n' :: Text.leadingBlank next) ++
          (Text.trimStart next ++ later.flatMap ('\n' :: ·)) := by
    rw [hasLines.text, Text.intercalate_around, List.flatMap_cons]
    conv_lhs => rw [← lineParts, ← nextParts]
    simp only [List.append_assoc, List.cons_append]
  obtain ⟨changed, replaced, text⟩ := exists_replaced_part shape piece
  have starts :
      buffer.lineStart earlier.length + (Text.trimEnd line).length =
        (earlier.flatMap (· ++ ['\n']) ++ Text.trimEnd line).length := by
    rw [hasLines.lineStart_eq, List.length_append]
  have stops :
      buffer.firstNonBlank (earlier.length + 1) =
        (earlier.flatMap (· ++ ['\n']) ++ Text.trimEnd line).length +
          (behind ++ '\n' :: Text.leadingBlank next).length := by
    have longer := congrArg List.length lineParts
    rw [List.length_append] at longer
    rw [firstNonBlank, ← nextNumber, nextHas.lineText_eq, nextHas.lineStart_eq,
      List.flatMap_append, List.flatMap_singleton]
    simp only [List.length_append, List.length_cons, List.length_nil]
    omega
  rw [starts, stops]
  refine ⟨_, changed, replaced, text.trans ?_⟩
  simp only [List.append_assoc]

end Buffer

namespace Commands

open CommandM

variable
  {editor : Editor}
  {line next : List Char}
  {earlier later : List (List Char)}

/-- One turn of a join makes one line of two. -/
theorem joinNext_runOn
    (hasLines : editor.buffer.HasLines (earlier ++ line :: next :: later)) :
    ∃ changed,
      (joinNext earlier.length).runOn editor =
          (.ok (editor.buffer.lineStart earlier.length + (Text.trimEnd line).length),
            { editor with buffer := changed }) ∧
        changed.HasLines (earlier ++ Text.joined line next :: later) := by
  have nextHas : editor.buffer.HasLines ((earlier ++ [line]) ++ next :: later) := by
    rwa [List.append_assoc]
  have isLine : (earlier ++ [line]).length ≤ editor.buffer.lastLine := by
    rw [nextHas.lastLine_eq]
    exact Nat.le_add_right _ _
  have nextIsBlank := Buffer.firstNonBlank_eq_lineEnd_iff isLine
  rw [nextHas.lineText_eq, List.length_append, List.length_singleton] at nextIsBlank
  obtain ⟨between, changed, replaced, text⟩ :=
    hasLines.exists_replaced_seam
      (if Text.isBlankText line ∨ Text.isBlankText next then [] else [' '])
  refine ⟨changed, ?_, ?_⟩
  · unfold joinNext
    rw [runOn_get_bind]
    dsimp only
    rw [hasLines.lineText_eq]
    simp only [nextIsBlank]
    rw [CommandM.replace, runOn_bind, runOn_edit, replaced]
    rfl
  · have noBreak := hasLines.noBreak
    simp only [List.forall_mem_append, List.forall_mem_cons] at noBreak
    refine ⟨?_, by simp, ?_⟩
    · rw [Text.intercalate_around]
      exact text
    · simp only [List.forall_mem_append, List.forall_mem_cons]
      exact
        ⟨noBreak.1, Text.hasNoBreak_joined noBreak.2.1 noBreak.2.2.1, noBreak.2.2.2⟩

/-- A join takes the following lines into a line, as far as there are any. -/
theorem joinFollowing_runOn
    (hasLines : editor.buffer.HasLines (earlier ++ line :: later))
    (count seam : Nat) :
    ∃ changed,
      (∃ last,
          (joinFollowing earlier.length count seam).runOn editor =
            (.ok last, { editor with buffer := changed })) ∧
        changed.HasLines
          (earlier ++ (later.take count).foldl Text.joined line :: later.drop count) := by
  induction count generalizing editor line later seam with
  | zero =>
      exact ⟨editor.buffer, ⟨seam, rfl⟩, hasLines⟩
  | succ count inductionHypothesis =>
      have counted := hasLines.lastLine_eq
      cases later with
      | nil =>
          have isLast : earlier.length ≥ editor.buffer.lastLine := Nat.le_of_eq counted
          refine ⟨editor.buffer, ⟨seam, ?_⟩, hasLines⟩
          rw [joinFollowing, runOn_get_bind, if_pos isLast]
          rfl
      | cons next later =>
          have notLast : ¬ earlier.length ≥ editor.buffer.lastLine := by
            rw [counted, List.length_cons]
            omega
          obtain ⟨between, turn, betweenHas⟩ := joinNext_runOn hasLines
          obtain ⟨changed, ⟨last, others⟩, changedHas⟩ :=
            @inductionHypothesis { editor with buffer := between } _ _ betweenHas _
          refine ⟨changed, ⟨last, ?_⟩, changedHas⟩
          rw [joinFollowing, runOn_get_bind, if_neg notLast, runOn_bind_of_ok turn, others]

/-- A join is accepted, and takes as many lines as its count says, the first included. -/
theorem joinLines_runOn
    (hasLines : editor.buffer.HasLines (earlier ++ line :: later))
    (onLine : earlier.length = editor.currentLine)
    (context : CommandContext) :
    ∃ left,
      (joinLines context).runOn editor = (.ok (), left) ∧
        left.buffer.HasLines
          (earlier ++
            (later.take (max context.count 2 - 1)).foldl Text.joined line ::
              later.drop (max context.count 2 - 1)) := by
  obtain ⟨changed, ⟨seam, ended⟩, changedHas⟩ :=
    joinFollowing_runOn hasLines (max context.count 2 - 1) editor.position
  let joined : Editor := { editor with buffer := changed }
  refine ⟨joined.setCursor seam, ?_, changedHas⟩
  rw [joinLines, runOn_get_bind, ← onLine, runOn_bind_of_ok ended]
  rfl

end Commands

end ChordEditor
