import ChordEditor.Proofs.Buffer.Blocks
import ChordEditor.Proofs.Commands.Actions

namespace ChordEditor

/-!
# Deleting into the register, and pasting from it

A deletion takes a span out of the text, stores it and puts the cursor where it was; a
block of lines is stored with a LF behind each line.  What characters were deleted is
pasted at the cursor.  Lines are pasted above the line of the cursor, or behind the text.
-/

namespace Editor

/-- The characters that an action deletes, if it deletes no whole lines. -/
def charsDeleted? (editor : Editor) (action : Action) (context : CommandContext) : Option Span :=
  match action with
  | .delete motion =>
      if motion.isLinewise then none else some (Commands.motionSpan editor motion context)
  | .deleteChar =>
      some
        ⟨editor.position,
          min (editor.position + context.count) (editor.buffer.lineEnd editor.currentLine)⟩
  | .deleteSelection =>
      match editor.selection with
      | .chars span => some span
      | .lines _ _ => none
  | _ => none

/-- The lines that an action deletes, if it deletes whole ones. -/
def linesDeleted?
    (editor : Editor)
    (action : Action)
    (context : CommandContext) : Option LineRange :=
  match action with
  | .delete motion =>
      if motion.isLinewise then some (Commands.motionLines editor motion context) else none
  | .deleteLines => some (Commands.countedLines editor context)
  | .deleteSelection =>
      match editor.selection with
      | .chars _ => none
      | .lines first last => some ⟨first, last⟩
  | _ => none

/-- Where the cursor goes when lines have been deleted. -/
def blockPlace (lines : LineRange) (text : List Char) : Nat :=
  (Buffer.ofText text).firstNonBlank (min lines.first (Buffer.ofText text).lastLine)

/-- A span is taken out of the text, something is stored, and the cursor is put somewhere. -/
structure TakesOut
    (span : Span)
    (register : Register)
    (place : List Char → Nat)
    (before after : Editor) : Prop where
  text :
    after.buffer.text =
      before.buffer.text.take span.start ++ before.buffer.text.drop span.stop
  register : after.register = register
  position : after.position = after.buffer.clamp (place after.buffer.text)

theorem TakesOut.setMode
    {span : Span}
    {register : Register}
    {place : List Char → Nat}
    {before after : Editor}
    (takesOut : before.TakesOut span register place after)
    (mode : Mode) :
    before.TakesOut span register place (after.setMode mode) := by
  unfold Editor.setMode
  split
  · exact takesOut
  · split <;> exact ⟨takesOut.text, takesOut.register, takesOut.position⟩

end Editor

namespace Commands

open CommandM

variable {editor : Editor}

/-- Running a command and then another one, the first of which is accepted. -/
theorem runOn_bind_of_ok
    {command : CommandM α}
    {next : α → CommandM β}
    {after : Editor}
    {result : α}
    (ended : command.runOn editor = (.ok result, after)) :
    (command >>= next).runOn editor = (next result).runOn after := by
  rw [runOn_bind, ended]

theorem not_isEmpty_of_lt
    {span : Span}
    (someChar : span.start < span.stop) :
    ¬ span.isEmpty = true := by
  unfold Span.isEmpty
  rw [decide_eq_true_iff]
  omega

/-- A deletion of a range of the text is accepted, and gives what it takes out. -/
theorem delete_runOn
    {span : Span}
    (isRange : span.IsRangeOf editor.buffer) :
    ∃ buffer,
      (CommandM.delete span).runOn editor =
          (.ok (editor.buffer.slice span.start span.stop), { editor with buffer }) ∧
        buffer.text = editor.buffer.text.take span.start ++ editor.buffer.text.drop span.stop := by
  obtain ⟨⟨removed, buffer⟩, deleted⟩ :=
    Buffer.delete_accepted_iff.mpr ⟨isRange.ordered, isRange.inText⟩
  obtain rfl := Buffer.removed_of_delete deleted
  refine ⟨buffer, ?_, Buffer.text_of_delete deleted⟩
  unfold CommandM.delete
  rw [runOn_edit, deleted]

theorem deleteSpan_takesOut
    {span : Span}
    (someChar : span.start < span.stop)
    (inText : span.stop ≤ editor.buffer.length) :
    ∃ after,
      (deleteSpan span).runOn editor = (.ok (), after) ∧
        editor.TakesOut span ⟨editor.buffer.slice span.start span.stop, false⟩
          (fun _ => span.start) after := by
  obtain ⟨buffer, ended, text⟩ := delete_runOn ⟨Nat.le_of_lt someChar, inText⟩
  let stored : Editor :=
    { editor with
      buffer
      register := ⟨editor.buffer.slice span.start span.stop, false⟩ }
  refine ⟨stored.setCursor span.start, ?_, text, rfl, rfl⟩
  unfold deleteSpan
  rw [if_neg (not_isEmpty_of_lt someChar), runOn_bind_of_ok ended]
  rfl

theorem deleteLineBlock_takesOut
    {lines : LineRange}
    (ordered : lines.first ≤ lines.last) :
    ∃ after,
      (deleteLineBlock lines).runOn editor = (.ok (), after) ∧
        editor.TakesOut (editor.buffer.lineSpan lines.first lines.last)
          ⟨editor.buffer.linesText lines.first lines.last, true⟩ (Editor.blockPlace lines)
          after := by
  obtain ⟨buffer, ended, text⟩ := delete_runOn (editor.buffer.lineSpan_isRange ordered)
  let stored : Editor :=
    { editor with
      buffer
      register := ⟨editor.buffer.linesText lines.first lines.last, true⟩ }
  refine
    ⟨stored.setCursor (buffer.firstNonBlank (min lines.first buffer.lastLine)), ?_, text, rfl,
      rfl⟩
  unfold deleteLineBlock
  rw [runOn_get_bind, runOn_bind_of_ok ended]
  rfl

/-- Leaving for normal mode changes nothing of what was taken out. -/
theorem takesOut_then_normal
    {command : CommandM Unit}
    {span : Span}
    {register : Register}
    {place : List Char → Nat}
    (takesOut :
      ∃ after,
        command.runOn editor = (.ok (), after) ∧ editor.TakesOut span register place after) :
    ∃ after,
      (do
        command
        CommandM.setMode .normal : CommandM Unit).runOn editor = (.ok (), after) ∧
        editor.TakesOut span register place after := by
  obtain ⟨after, ended, taken⟩ := takesOut
  refine ⟨after.setMode .normal, ?_, taken.setMode .normal⟩
  rw [runOn_bind_of_ok ended]
  rfl

/-- The characters that an action deletes are in the text. -/
theorem charsDeleted_inText
    {action : Action}
    {context : CommandContext}
    {span : Span}
    (inText : editor.CursorInText)
    (deletes : editor.charsDeleted? action context = some span) :
    span.stop ≤ editor.buffer.length := by
  unfold Editor.charsDeleted? at deletes
  split at deletes
  · rename_i motion
    split at deletes
    · contradiction
    · cases deletes
      exact (motion.operatorSpan_isRange editor.buffer _ _).inText
  · cases deletes
    exact Nat.le_trans (Nat.min_le_right _ _) (editor.buffer.lineEnd_le editor.currentLine)
  · split at deletes
    · rename_i selected
      cases deletes
      exact selection_stop_le inText selected
    · contradiction
  · contradiction

/-- An action that deletes characters takes them out and stores them. -/
theorem runAction_takes_chars
    {action : Action}
    {context : CommandContext}
    {span : Span}
    (inText : editor.CursorInText)
    (deletes : editor.charsDeleted? action context = some span)
    (someChar : span.start < span.stop) :
    ∃ after,
      (runAction action context).runOn editor = (.ok (), after) ∧
        editor.TakesOut span ⟨editor.buffer.slice span.start span.stop, false⟩
          (fun _ => span.start) after := by
  have taken := deleteSpan_takesOut someChar (charsDeleted_inText inText deletes)
  unfold Editor.charsDeleted? at deletes
  split at deletes
  · split at deletes
    · contradiction
    · rename_i charwise
      cases deletes
      rw [runAction, deleteTowards, runOn_get_bind, if_neg charwise]
      exact taken
  · cases deletes
    -- The command asks for itself whether there is something to delete, as the one for a span does.
    obtain ⟨after, ended, taken⟩ := taken
    rw [deleteSpan, if_neg (not_isEmpty_of_lt someChar)] at ended
    refine ⟨after, ?_, taken⟩
    rw [runAction, deleteChar, runOn_get_bind]
    dsimp only
    rw [if_pos someChar]
    exact ended
  · split at deletes
    · rename_i selected
      cases deletes
      rw [runAction, deleteSelection, runOn_get_bind, selected]
      exact takesOut_then_normal taken
    · contradiction
  · contradiction

/-- The lines that an action deletes are lines of the text, in their order. -/
theorem linesDeleted_bounds
    {action : Action}
    {context : CommandContext}
    {lines : LineRange}
    (deletes : editor.linesDeleted? action context = some lines) :
    lines.first ≤ lines.last ∧ lines.last ≤ editor.buffer.lastLine := by
  unfold Editor.linesDeleted? at deletes
  split at deletes
  · rename_i motion
    split at deletes
    · cases deletes
      exact ⟨motion.linesCovered_ordered _ _ _, editor.buffer.lineOf_le_lastLine _⟩
    · contradiction
  · cases deletes
    exact ⟨countedLines_ordered editor context, Nat.min_le_right _ _⟩
  · split at deletes
    · contradiction
    · rename_i first last selected
      cases deletes
      refine ⟨selection_ordered selected, ?_⟩
      unfold Editor.selection at selected
      dsimp only at selected
      split at selected
      · cases selected
        exact editor.buffer.lineOf_le_lastLine _
      · split at selected <;> contradiction
  · contradiction

/-- An action that deletes lines takes them out with one break, and stores them. -/
theorem runAction_takes_lines
    {action : Action}
    {context : CommandContext}
    {lines : LineRange}
    (deletes : editor.linesDeleted? action context = some lines) :
    ∃ after,
      (runAction action context).runOn editor = (.ok (), after) ∧
        editor.TakesOut (editor.buffer.lineSpan lines.first lines.last)
          ⟨editor.buffer.linesText lines.first lines.last, true⟩ (Editor.blockPlace lines)
          after := by
  have taken := @deleteLineBlock_takesOut editor lines (linesDeleted_bounds deletes).1
  unfold Editor.linesDeleted? at deletes
  split at deletes
  · split at deletes
    · rename_i linewise
      cases deletes
      rw [runAction, deleteTowards, runOn_get_bind, if_pos linewise]
      exact taken
    · contradiction
  · cases deletes
    rw [runAction, deleteLines, runOn_get_bind]
    exact taken
  · split at deletes
    · contradiction
    · rename_i selected
      cases deletes
      rw [runAction, deleteSelection, runOn_get_bind, selected]
      exact takesOut_then_normal taken
  · contradiction

section Pasted

/-- An insertion in range is accepted. -/
theorem insert_runOn
    {place : Nat}
    (inText : place ≤ editor.buffer.length)
    (piece : List Char) :
    ∃ buffer,
      (CommandM.insert place piece).runOn editor = (.ok (), { editor with buffer }) ∧
        buffer.text = editor.buffer.text.take place ++ piece ++ editor.buffer.text.drop place := by
  obtain ⟨buffer, inserted⟩ := Buffer.insert_accepted_iff.mpr inText
  refine ⟨buffer, ?_, Buffer.text_of_insert inserted⟩
  unfold CommandM.insert
  rw [runOn_edit, inserted]
  rfl

variable
  {context : CommandContext}
  (someText : editor.register.text ≠ [])
  (once : context.count = 1)

theorem repeatText_one (text : List Char) : repeatText 1 text = text := by
  simp [repeatText]

include someText

/-- What the register holds is pasted as often as the count says. -/
theorem paste_runOn
    (above : Bool)
    (context : CommandContext) :
    (paste above context).runOn editor =
      (if editor.register.linewise then do
        let line ← pasteLines above (repeatText context.count editor.register.text)
        CommandM.change fun editor => editor.setCursor (editor.buffer.firstNonBlank line)
      else do
        let text := repeatText context.count editor.register.text
        CommandM.insert editor.position text
        CommandM.setCursor (editor.position + text.length - 1) :
          CommandM Unit).runOn editor := by
  have notEmpty : ¬ editor.register.isEmpty = true := by
    simpa [Register.isEmpty] using someText
  unfold paste
  rw [runOn_get_bind, if_neg notEmpty]

include once

/-- Characters are pasted at the cursor. -/
theorem paste_chars
    (charwise : editor.register.linewise = false)
    (inText : editor.position ≤ editor.buffer.length)
    (above : Bool) :
    ∃ after,
      (paste above context).runOn editor = (.ok (), after) ∧
        after.buffer.text =
          editor.buffer.text.take editor.position ++ editor.register.text ++
            editor.buffer.text.drop editor.position := by
  obtain ⟨buffer, ended, text⟩ := insert_runOn inText editor.register.text
  rw [paste_runOn someText, once, repeatText_one, charwise, if_neg Bool.false_ne_true,
    runOn_bind_of_ok ended]
  exact ⟨_, rfl, text⟩

variable (linewise : editor.register.linewise = true)

include linewise

/-- Lines are pasted above the line of the cursor. -/
theorem paste_lines_above :
    ∃ after,
      (paste true context).runOn editor = (.ok (), after) ∧
        after.buffer.text =
          editor.buffer.text.take (editor.buffer.lineStart editor.currentLine) ++
            editor.register.text ++
              editor.buffer.text.drop (editor.buffer.lineStart editor.currentLine) := by
  obtain ⟨buffer, ended, text⟩ :=
    insert_runOn (editor.buffer.lineStart_le editor.currentLine) editor.register.text
  rw [paste_runOn someText, once, repeatText_one, if_pos linewise, pasteLines, bind_assoc,
    runOn_get_bind, if_pos rfl, bind_assoc, runOn_bind_of_ok ended]
  exact ⟨_, rfl, text⟩

/-- Lines are pasted below the last line behind the text. -/
theorem paste_lines_below
    (onLast : editor.currentLine = editor.buffer.lastLine) :
    ∃ after,
      (paste false context).runOn editor = (.ok (), after) ∧
        after.buffer.text =
          editor.buffer.text ++ '\n' :: withoutFinalNewline editor.register.text := by
  obtain ⟨buffer, ended, text⟩ :=
    insert_runOn (Nat.le_refl editor.buffer.length)
      ('\n' :: withoutFinalNewline editor.register.text)
  rw [Buffer.length, List.take_length, List.drop_length, List.append_nil] at text
  have notBefore : ¬ editor.currentLine < editor.buffer.lastLine := by
    rw [onLast]
    exact Nat.lt_irrefl _
  rw [paste_runOn someText, once, repeatText_one, if_pos linewise, pasteLines, bind_assoc,
    runOn_get_bind, if_neg Bool.false_ne_true, if_neg notBefore, bind_assoc,
    runOn_bind_of_ok ended]
  exact ⟨_, rfl, text⟩

end Pasted

end Commands

end ChordEditor
