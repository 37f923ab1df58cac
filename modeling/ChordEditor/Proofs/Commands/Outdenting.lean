import ChordEditor.Commands.Insert
import ChordEditor.Proofs.Buffer.LineFronts
import ChordEditor.Proofs.Commands.Pasting
import ChordEditor.Proofs.Commands.Shifting

namespace ChordEditor

/-!
# A line brought to the left

Blanks are taken from the start of a line.  Some blanks end a line as well (VT, FF, NEL, LS
and PS), and a CR before the line joins a LF behind the blanks.  So lines can be lost, and
then other text comes to stand on the line, which can be longer than what was there.
-/

namespace Commands

open CommandM

variable
  {editor next : Editor}
  {number units : Nat}

/-- How many blanks are taken from the start of a line with some units. -/
def outdentCount (editor : Editor) (number units : Nat) : Nat :=
  charsWithin editor.settings.tabWidth (editor.settings.tabWidth * units)
    (Text.leadingBlank (editor.buffer.lineText number))

theorem outdentCount_le (editor : Editor) (number units : Nat) :
    outdentCount editor number units ≤ (editor.buffer.lineText number).length :=
  Nat.le_trans (charsWithin_le _ _ _) (Text.length_leadingBlank_le _)

/-- How many lines are lost when a line is brought to the left. -/
def linesLost (editor : Editor) (number units : Nat) : Nat :=
  editor.buffer.breaksLost number (outdentCount editor number units)

/-- A line has been brought to the left, or lines that are lost made room for another one. -/
structure Outdents (editor : Editor) (number units : Nat) (next : Editor) : Prop where
  lineCount : next.buffer.lineCount + linesLost editor number units = editor.buffer.lineCount
  kept :
    linesLost editor number units = 0 →
      next.buffer.lineText number =
        outdented editor.settings.tabWidth units (editor.buffer.lineText number)
  replaced :
    linesLost editor number units ≠ 0 →
      next.buffer.lineText number =
        editor.buffer.lineText (number + linesLost editor number units)

namespace Outdents

variable (outdents : Outdents editor number units next)

include outdents

/-- The lines are as many as before, and the line is no longer, exactly if none is lost. -/
theorem keeps_line_iff :
    next.buffer.lineCount = editor.buffer.lineCount ∧
        next.buffer.lineLength number ≤ editor.buffer.lineLength number ↔
      linesLost editor number units = 0 := by
  have counted := outdents.lineCount
  constructor
  · rintro ⟨sameCount, _⟩
    omega
  · intro noneLost
    refine ⟨by omega, ?_⟩
    rw [Buffer.lineLength, outdents.kept noneLost, outdented, List.length_drop]
    exact Nat.sub_le _ _

/-- The line gets longer if the one that takes its place is. -/
theorem lengthens_iff :
    editor.buffer.lineLength number < next.buffer.lineLength number ↔
      linesLost editor number units ≠ 0 ∧
        editor.buffer.lineLength number <
          editor.buffer.lineLength (number + linesLost editor number units) := by
  by_cases noneLost : linesLost editor number units = 0
  · have shorter := (outdents.keeps_line_iff.mpr noneLost).2
    exact iff_of_false (Nat.not_lt.mpr shorter) fun someLost => someLost.1 noneLost
  · have sameLength :
        next.buffer.lineLength number =
          editor.buffer.lineLength (number + linesLost editor number units) :=
      congrArg List.length (outdents.replaced noneLost)
    rw [sameLength, and_iff_right noneLost]

end Outdents

/-- Bringing a line to the left is accepted, and takes its first characters out of the text. -/
theorem outdentLine_takes (editor : Editor) (number units : Nat) :
    ∃ buffer,
      (outdentLine number units).runOn editor = (.ok (), { editor with buffer }) ∧
        buffer.text =
          editor.buffer.text.take (editor.buffer.lineStart number) ++
            editor.buffer.text.drop
              (editor.buffer.lineStart number + outdentCount editor number units) := by
  have inOwn := outdentCount_le editor number units
  have inText := editor.buffer.lineStart_add_lineText_le number
  obtain ⟨buffer, ended, text⟩ :=
    @delete_runOn editor
      ⟨editor.buffer.lineStart number,
        editor.buffer.lineStart number + outdentCount editor number units⟩
      ⟨Nat.le_add_right _ _, Nat.le_trans (Nat.add_le_add_left inOwn _) inText⟩
  exact ⟨buffer, runOn_bind_of_ok ended, text⟩

/-- What has been taken from a line's start has brought it to the left. -/
theorem outdents_of_taken
    (taken :
      next.buffer.text =
        editor.buffer.text.take (editor.buffer.lineStart number) ++
          editor.buffer.text.drop
            (editor.buffer.lineStart number + outdentCount editor number units)) :
    Outdents editor number units next := by
  have inOwn := outdentCount_le editor number units
  exact
    { lineCount := Buffer.lineCount_of_front_taken inOwn taken
      kept := Buffer.lineText_of_none_lost inOwn taken
      replaced := Buffer.lineText_of_some_lost inOwn taken }

/--
In insert mode the cursor's line is brought to the left, and the cursor goes with its text
and stays on the line if no line is lost.
-/
theorem outdentCurrent_runOn (inText : editor.position ≤ editor.buffer.length) :
    ∃ next,
      outdentCurrent.runOn editor = (.ok (), next) ∧
        Outdents editor editor.currentLine 1 next ∧
          (linesLost editor editor.currentLine 1 = 0 →
            next.position =
                max (editor.position - outdentCount editor editor.currentLine 1)
                  (editor.buffer.lineStart editor.currentLine) ∧
              next.currentLine = editor.currentLine) := by
  obtain ⟨buffer, ended, taken⟩ := outdentLine_takes editor editor.currentLine 1
  have outdents := @outdents_of_taken editor { editor with buffer } _ _ taken
  have inOwn := outdentCount_le editor editor.currentLine 1
  unfold outdentCurrent
  rw [runOn_get_bind]
  dsimp only
  rw [runOn_bind_of_ok ended, runOn_get_bind]
  refine ⟨_, rfl, outdents_of_taken taken, ?_⟩
  intro noneLost
  have shorter := (outdents.keeps_line_iff.mpr noneLost).2
  have ownText :
      buffer.lineText editor.currentLine =
        (editor.buffer.lineText editor.currentLine).drop
          (outdentCount editor editor.currentLine 1) :=
    outdents.kept noneLost
  have removed :
      editor.buffer.lineLength editor.currentLine - buffer.lineLength editor.currentLine =
        outdentCount editor editor.currentLine 1 := by
    rw [Buffer.lineLength, Buffer.lineLength, ownText, List.length_drop]
    exact Nat.sub_sub_self inOwn
  obtain ⟨within, onLine⟩ := Buffer.lineOf_of_none_lost inOwn taken noneLost inText rfl
  rw [if_pos shorter, removed]
  show buffer.clamp _ = _ ∧ buffer.lineOf (buffer.clamp _) = _
  rw [Buffer.clamp_of_le within]
  exact ⟨rfl, onLine⟩

/-- Where only LF ends a line no line is lost. -/
theorem linesLost_of_onlyNewlines
    (onlyNewlines : Text.BrokenByNewlines editor.buffer.text)
    (number units : Nat) :
    linesLost editor number units = 0 := by
  obtain ⟨buffer, ended, taken⟩ := outdentLine_takes editor number units
  have counted := (@outdents_of_taken editor { editor with buffer } _ _ taken).lineCount
  have hasLines := Buffer.hasLines_lineTexts onlyNewlines
  obtain ⟨changed, sameEnd, changedHas⟩ := outdentLine_runOn hasLines number units
  obtain rfl : buffer = changed := by
    have sameEditor := congrArg Prod.snd (ended.symm.trans sameEnd)
    exact congrArg Editor.buffer sameEditor
  rw [changedHas.lineCount_eq, List.length_modify, ← hasLines.lineCount_eq] at counted
  exact Nat.left_eq_add.mp counted.symm

end Commands

end ChordEditor
