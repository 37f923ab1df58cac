import ChordEditor.Commands.Insert
import ChordEditor.Proofs.Commands.Actions

namespace ChordEditor.Commands

/-!
# Keys of insert mode are tidy, and sure with the cursor in the text

No key of insert mode changes the mode, and only the first edit of a key can be
refused.  It is not refused if the cursor lies in the text.
-/

open CommandM

variable {fixedMode : Prop} {editor : Editor}

theorem typeChar_sureIf (c : Char) :
    (typeChar c).SureIf editor.CursorInText fixedMode editor := by
  unfold typeChar
  apply SureIf.get_bind
  dsimp only
  split
  · exact .of_sure (.setCursor _)
  · exact (SureIf.insert Editor.CursorInText.position _).followed fun _ _ => .setCursor _

/-- Breaking the line is tidy: what is inserted goes where something was deleted before. -/
theorem breakLine_sureIf :
    breakLine.SureIf editor.CursorInText fixedMode editor := by
  have start := editor.buffer.lineStart_le editor.currentLine
  unfold breakLine
  apply SureIf.get_bind
  dsimp only
  generalize isCut :
    (if (!(editor.buffer.slice (editor.buffer.lineStart editor.currentLine)
        editor.position).isEmpty &&
        Text.isBlankText (editor.buffer.slice (editor.buffer.lineStart editor.currentLine)
          editor.position)) = true then
      editor.buffer.lineStart editor.currentLine
    else editor.position) = cut
  split
  -- Blanks alone before the cursor are taken out first.
  · rename_i someBlank
    apply (SureIf.delete fun inText => ⟨Nat.le_of_lt someBlank, inText.position⟩).bind
    intro removed after ended
    have deleted := delete_ok ended
    have inRange := Buffer.delete_accepted_iff.mp ⟨_, deleted⟩
    have shorter := Buffer.length_of_delete deleted
    dsimp only at inRange shorter
    exact (Sure.insert (by omega) _).followed fun _ _ => .setCursor _
  · have cutInText (inText : editor.CursorInText) : cut ≤ editor.buffer.length := by
      rw [← isCut]
      split
      · exact start
      · exact inText.position
    exact (SureIf.insert cutInText _).followed fun _ _ => .setCursor _

theorem typeTab_sureIf : typeTab.SureIf editor.CursorInText fixedMode editor := by
  apply SureIf.get_bind
  exact (SureIf.insert Editor.CursorInText.position _).followed fun _ _ => .setCursor _

theorem outdentCurrent_sure : outdentCurrent.Sure fixedMode editor := by
  apply Sure.get_bind
  apply (outdentLine_sure _ _).followed
  intro _ after
  exact Sure.get_bind (.setCursor _)

/-- Before a pair with nothing between there is a character, and one behind. -/
theorem lt_length_of_isEmptyPair
    {buffer : Buffer}
    {place : Nat}
    {previous : Option Char}
    (isPair : isEmptyPair previous (buffer.charAt? place) = true) :
    place < buffer.length := by
  unfold isEmptyPair at isPair
  split at isPair
  · have found := eq_of_beq isPair
    exact (List.getElem?_eq_some_iff.mp found).1
  · contradiction

theorem typeBackspace_sureIf :
    typeBackspace.SureIf editor.CursorInText fixedMode editor := by
  unfold typeBackspace
  apply SureIf.get_bind
  dsimp only
  split
  · exact .of_sure (.pure ())
  · split
    · rename_i isPair
      have inText := lt_length_of_isEmptyPair isPair
      refine (SureIf.delete ?_).followed fun _ _ => .setCursor _
      exact fun _ => ⟨by dsimp only; omega, inText⟩
    · refine (SureIf.delete ?_).followed fun _ _ => .setCursor _
      exact fun inText => ⟨Nat.sub_le _ _, inText.position⟩

theorem typeDelete_sure : typeDelete.Sure fixedMode editor := by
  unfold typeDelete
  apply Sure.get_bind
  dsimp only
  split
  · rename_i inText
    exact (Sure.delete (charSpan_isRange inText)).followed fun _ _ => .pure ()
  · exact .pure ()

/-- Every key of insert mode is tidy, and sure with the cursor in the text. -/
theorem runInsertKey_sureIf (key : InsertKey) :
    (runInsertKey key).SureIf editor.CursorInText fixedMode editor := by
  cases key with
  | char c => exact typeChar_sureIf c
  | newline => exact breakLine_sureIf
  | tab => exact typeTab_sureIf
  | outdent => exact .of_sure outdentCurrent_sure
  | backspace => exact typeBackspace_sureIf
  | delete => exact .of_sure typeDelete_sure
  | move motion => exact .of_sure (.change ⟨rfl, rfl, rfl, rfl⟩ rfl fun _ => rfl)

end ChordEditor.Commands
