import ChordEditor.Proofs.Commands.Operators
import ChordEditor.Proofs.Motion.FoundChar
import ChordEditor.Proofs.Motion.Words
import ChordEditor.Proofs.Session.DeleteThenPaste

namespace ChordEditor.Editor

/-!
# Operators in a session

However delete, change or yank is asked for with a motion that takes no whole lines, it
operates over the span of the motion.  What holds of the spans of characters to find and
of words holds therefore of what the operators take.
-/

/-- An operation runs an action that operates over a motion from a place of a buffer. -/
structure OperatesFrom
    (motion : Motion)
    (buffer : Buffer)
    (place : Nat)
    (args : MotionArgs)
    (editor : Editor)
    (operation : Operation)
    (action : Action) : Prop where
  buffer : editor.buffer = buffer
  position : editor.position = place
  runs :
    ∃ context,
      operation.actionOn? editor = some (action, context) ∧
        Commands.motionArgs editor context = args
  operand : action.operand? = some motion

section Operator

variable
  {motion : Motion}
  {buffer : Buffer}
  {place : Nat}
  {args : MotionArgs}
  {editor : Editor}
  {operation : Operation}
  {action : Action}

/-- What the command of an operator does its event shows. -/
theorem OperatesFrom.operates
    (operates : OperatesFrom motion buffer place args editor operation action)
    (charwise : motion.isLinewise = false) :
    editor.OperatesOver action (motion.operatorSpan buffer place args)
      (operation.run editor) := by
  obtain ⟨rfl, rfl, ⟨context, runs, rfl⟩, operand⟩ := operates
  apply run_takes runs
  intro dispatcher
  obtain ⟨left, ended, operated⟩ :=
    @Commands.runAction_operates (editor.asked dispatcher action) _ _ context operand charwise
  exact ⟨left, ended, operated⟩

section Takes

variable
  {span : Span}
  {after : Editor}
  (operated : editor.OperatesOver action span after)
  (takes : action.keepsOperand = false)

include operated takes

theorem OperatesOver.text_eq :
    after.buffer.text =
      editor.buffer.text.take span.start ++ editor.buffer.text.drop span.stop := by
  have isText := operated.text
  rw [removed, takes] at isText
  exact isText

/-- The text stays exactly if the span that is taken out holds nothing. -/
theorem OperatesOver.text_stays_iff (isRange : span.IsRangeOf editor.buffer) :
    after.buffer.text = editor.buffer.text ↔ span.start = span.stop := by
  rw [operated.text_eq takes]
  constructor
  · intro same
    have sameLength := congrArg List.length same
    rw [List.length_append, List.length_take, List.length_drop] at sameLength
    have ordered := isRange.ordered
    have inText : span.stop ≤ editor.buffer.text.length := isRange.inText
    omega
  · intro isEmpty
    rw [isEmpty, List.take_append_drop]

/-- A character occurs as often as before exactly if it is not among those taken out. -/
theorem OperatesOver.count_stays_iff
    (ordered : span.start ≤ span.stop)
    (c : Char) :
    after.buffer.text.count c = editor.buffer.text.count c ↔
      c ∉ editor.buffer.spanText span := by
  have whole := congrArg (List.count c) (editor.buffer.text_around_slice ordered)
  rw [List.count_append, List.count_append] at whole
  rw [operated.text_eq takes, List.count_append, ← List.count_eq_zero, Buffer.spanText]
  omega

end Takes

/--
Operators over a character to find take what is between the place and the occurrence that
the count asks for, forward with the occurrence.  Without so many occurrences nothing is
deleted backward or at the end of the text, and elsewhere the character at the place is.
-/
theorem find_operator_takes_occurrence
    {backward : Bool}
    {wanted : Char}
    (inText : place ≤ buffer.length)
    (asked : args.literal = some wanted) :
    let span := (Motion.findChar backward).operatorSpan buffer place args
    Motion.SpansOccurrence backward buffer place wanted (max args.count 1) span ∧
      ∀ {editor operation action},
        OperatesFrom (.findChar backward) buffer place args editor operation action →
          let after := operation.run editor
          editor.OperatesOver action span after ∧
            (action.keepsOperand = false →
              Motion.occurrences backward buffer place wanted < max args.count 1 →
                (after.buffer.text = buffer.text ↔
                  backward = true ∨ place = buffer.length)) := by
  intro span
  have spans : Motion.SpansOccurrence backward buffer place wanted (max args.count 1) span :=
    Motion.findChar_span inText asked
  refine ⟨spans, ?_⟩
  intro editor operation action operates after
  have operated : editor.OperatesOver action span after := operates.operates rfl
  refine ⟨operated, ?_⟩
  intro takes tooFew
  obtain rfl := operates.buffer
  rw [operated.text_stays_iff takes (Motion.operatorSpan_isRange _ _ _ _), spans.missed tooFew]
  by_cases nothing : backward = true ∨ place = editor.buffer.length <;> simp [nothing]

/-- Up to a character that is there it is deleted too; without one the first character is. -/
theorem find_operator_with_and_without_occurrence :
    let editor := demo "ab.c".toList
    let deleteTo (wanted : Char) : Operation :=
      .execute (.delete (.findChar false)) { literals := [wanted] }
    (∃ found,
      Motion.IsOccurrence false editor.buffer 0 '.' 1 found ∧
        editor.OperatesOver (.delete (.findChar false)) ⟨0, found + 1⟩
          ((deleteTo '.').run editor)) ∧
      ((deleteTo 'z').run editor).buffer.text ≠ editor.buffer.text := by
  intro editor deleteTo
  have asks (wanted : Char) :
      OperatesFrom (.findChar false) editor.buffer 0
        (Commands.motionArgs editor { literals := [wanted] }) editor (deleteTo wanted)
        (.delete (.findChar false)) :=
    ⟨rfl, by decide +kernel, ⟨_, rfl, rfl⟩, rfl⟩
  obtain ⟨spans, operates⟩ :=
    @find_operator_takes_occurrence editor.buffer 0
      (Commands.motionArgs editor { literals := ['.'] }) false '.' (Nat.zero_le _) rfl
  obtain ⟨found, isOccurrence, isSpan⟩ := spans.found (by decide +kernel)
  have taken := (operates (asks '.')).1
  rw [isSpan] at taken
  have missed :=
    ((@find_operator_takes_occurrence editor.buffer 0
      (Commands.motionArgs editor { literals := ['z'] }) false 'z' (Nat.zero_le _) rfl).2
      (asks 'z')).2 rfl (by decide +kernel)
  refine ⟨⟨found, isOccurrence, taken⟩, ?_⟩
  rw [Ne, missed]
  decide +kernel

/--
An operator up to the next word does not go behind the end of the line, and delete and
change keep all line breaks, unless a blank line is ahead.
-/
theorem word_operator_keeps_line_iff
    (onlyNewlines : Text.BrokenByNewlines buffer.text)
    (inText : place ≤ buffer.length)
    (once : args.count ≤ 1) :
    let span := Motion.wordForward.operatorSpan buffer place args
    span.start = place ∧
      (span.stop ≤ buffer.lineEnd (buffer.lineOf place) ↔
        ¬ Motion.BlankLineAhead buffer place) ∧
        ∀ {editor operation action},
          OperatesFrom .wordForward buffer place args editor operation action →
            let after := operation.run editor
            editor.OperatesOver action span after ∧
              (action.keepsOperand = false →
                (after.buffer.text.count '\n' = buffer.text.count '\n' ↔
                  ¬ Motion.BlankLineAhead buffer place)) := by
  intro span
  obtain ⟨starts, stops, holds⟩ := Motion.wordForward_span_iff onlyNewlines once inText
  refine ⟨starts, stops, ?_⟩
  intro editor operation action operates after
  have operated : editor.OperatesOver action span after := operates.operates rfl
  refine ⟨operated, ?_⟩
  intro takes
  obtain rfl := operates.buffer
  have isRange := Motion.wordForward.operatorSpan_isRange editor.buffer place args
  rw [operated.count_stays_iff takes isRange.ordered]
  exact not_congr holds

/-- A word before a blank line is deleted with its line break, before another line without. -/
theorem word_operator_before_blank_line :
    let blankNext := demo "one\n\ntwo".toList
    let indentedNext := demo "one\n  two".toList
    let deleteWord : Operation := .execute (.delete .wordForward) {}
    (deleteWord.run blankNext).buffer.text.count '\n' ≠ blankNext.buffer.text.count '\n' ∧
      (deleteWord.run indentedNext).buffer.text.count '\n' =
        indentedNext.buffer.text.count '\n' := by
  intro blankNext indentedNext deleteWord
  have asks (editor : Editor) :
      OperatesFrom .wordForward editor.buffer editor.position (Commands.motionArgs editor {})
        editor deleteWord (.delete .wordForward) :=
    ⟨rfl, rfl, ⟨_, rfl, rfl⟩, rfl⟩
  have crosses :=
    ((word_operator_keeps_line_iff (by decide +kernel) (by decide +kernel) (Nat.le_refl 1)).2.2
      (asks blankNext)).2 rfl
  have keeps :=
    ((word_operator_keeps_line_iff (by decide +kernel) (by decide +kernel) (Nat.le_refl 1)).2.2
      (asks indentedNext)).2 rfl
  rw [Ne, crosses, keeps, Classical.not_not]
  constructor
  · exact ⟨by decide +kernel, by decide +kernel, by decide +kernel⟩
  · intro ahead
    exact absurd ahead.next (by decide +kernel)

/--
Steps to the next word do not go backward, and steps to the start of a word do not go
forward.  Steps to the end of a word go backward only from the end of a text that is not
empty.  Operators take what is on the same side of the place, and at the end of the text
the one to the end of a word takes the last character.
-/
theorem word_motions_keep_side (inText : place ≤ buffer.length) :
    place ≤ Motion.wordForward.target buffer place args ∧
      Motion.wordBackward.target buffer place args ≤ place ∧
        (place ≤ Motion.wordEnd.target buffer place args ↔
          place < buffer.length ∨ buffer.length = 0) ∧
          ∀ {editor operation action},
            let after := operation.run editor
            (OperatesFrom .wordForward buffer place args editor operation action →
              ∃ stop, place ≤ stop ∧ editor.OperatesOver action ⟨place, stop⟩ after) ∧
              (OperatesFrom .wordBackward buffer place args editor operation action →
                editor.OperatesOver action ⟨Motion.wordBackward.target buffer place args, place⟩
                  after) ∧
                (OperatesFrom .wordEnd buffer place args editor operation action →
                  editor.OperatesOver action
                    (if place < buffer.length then
                      ⟨place, Motion.wordEnd.target buffer place args + 1⟩
                    else
                      ⟨place - 1, place⟩)
                    after) := by
  refine
    ⟨Motion.le_target_wordForward inText, Motion.target_wordBackward_le inText,
      Motion.le_target_wordEnd_iff inText, ?_⟩
  intro editor operation action after
  refine ⟨?_, ?_, ?_⟩
  · intro operates
    have operated := operates.operates rfl
    have ordered := (Motion.wordForward.operatorSpan_isRange buffer place args).ordered
    rw [Motion.operatorSpan_wordForward inText] at operated ordered
    exact ⟨_, ordered, operated⟩
  · intro operates
    have operated := operates.operates rfl
    rw [Motion.operatorSpan_wordBackward inText] at operated
    exact operated
  · intro operates
    have operated := operates.operates rfl
    rcases Nat.eq_or_lt_of_le inText with rfl | inside
    · rw [Motion.operatorSpan_wordEnd_at_end] at operated
      rw [if_neg (Nat.lt_irrefl _)]
      exact operated
    · rw [Motion.operatorSpan_wordEnd inside] at operated
      rw [if_pos inside]
      exact operated

/-- At the end of a text the last character is taken on both sides. -/
theorem word_operators_at_end_of_text :
    let editor := (demo "a b".toList).afterAll [.execute (.move .lineEnd) {}]
    let change (motion : Motion) : Operation := .execute (.change motion) {}
    ¬ 3 ≤ Motion.wordEnd.target editor.buffer 3 (Commands.motionArgs editor {}) ∧
      editor.OperatesOver (.change .wordEnd) ⟨2, 3⟩ ((change .wordEnd).run editor) ∧
        editor.OperatesOver (.change .wordBackward) ⟨2, 3⟩
          ((change .wordBackward).run editor) ∧
          ∃ stop, 3 ≤ stop ∧
            editor.OperatesOver (.change .wordForward) ⟨3, stop⟩
              ((change .wordForward).run editor) := by
  intro editor change
  have length : editor.buffer.length = 3 := by
    decide +kernel
  have asks (motion : Motion) :
      OperatesFrom motion editor.buffer 3 (Commands.motionArgs editor {}) editor (change motion)
        (.change motion) :=
    ⟨rfl, by decide +kernel, ⟨_, rfl, rfl⟩, rfl⟩
  obtain ⟨_, _, notBefore, operates⟩ :=
    @word_motions_keep_side editor.buffer 3 (Commands.motionArgs editor {})
      (Nat.le_of_eq length.symm)
  have backward := operates.2.1 (asks .wordBackward)
  have toEnd := operates.2.2 (asks .wordEnd)
  have start :
      Motion.wordBackward.target editor.buffer 3 (Commands.motionArgs editor {}) = 2 := by
    decide +kernel
  rw [start] at backward
  rw [length, if_neg (Nat.lt_irrefl 3)] at toEnd
  refine ⟨?_, toEnd, backward, operates.1 (asks .wordForward)⟩
  rw [notBefore, length]
  decide

end Operator

end ChordEditor.Editor
