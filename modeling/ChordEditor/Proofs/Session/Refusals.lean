import ChordEditor.Proofs.Commands.Replaying
import ChordEditor.Proofs.Commands.Submitted
import ChordEditor.Proofs.Commands.Typing
import ChordEditor.Proofs.Session.CursorInText

namespace ChordEditor

/-!
# Which commands are refused

The buffer refuses a change outside the text, and a range that ends before it starts.
With the cursor in the text no command asks for either, but for one: deleting to the end
of the line from between the CR and the LF of a break, which lies behind that end.

A command that comes to a number that is no machine word stops the program.  No action
does so with a count that makes machine words with all that it is added to or multiplied
by, and of the keys of insert mode only the one that takes indentation away.
-/

/-- There are no more lines before a place than characters. -/
theorem Text.lineOfIn_le_place (text : List Char) (place : Nat) :
    lineOfIn text place ≤ place := by
  fun_induction lineOfIn text place with
  | case1 | case2 | case3 =>
      exact Nat.zero_le _
  | case4 rest place inductionHypothesis =>
      omega
  | case5 place c rest _ _ isBreak inductionHypothesis =>
      omega
  | case6 place c rest _ _ isBreak inductionHypothesis =>
      omega

namespace Editor

/-- How a command ends. -/
inductive Ending where
  | returns
  | refused (error : EditError)
  /-- A number is no machine word. -/
  | stops

/-- How a command ends that is run in an edit group of its own. -/
def ending
    (editor : Editor)
    (overflows : Bool)
    (description : String)
    (command : CommandM Unit) : Ending :=
  if overflows then
    .stops
  else
    match ((editor.beginGroup description).attempt command).1 with
    | .ok _ => .returns
    | .error error => .refused error

/-- Whether a command that is run in an edit group of its own is refused. -/
def Refuses
    (editor : Editor)
    (description : String)
    (command : CommandM Unit) : Prop :=
  ∃ error, ((editor.beginGroup description).attempt command).1 = .error error

/-- Places with a count are machine words, and so many indentations or pastes fit a text. -/
structure HoldsCount (editor : Editor) (count : Nat) : Prop where
  some : 1 ≤ count
  places : editor.buffer.length + count ≤ Text.maxWord64
  units : editor.settings.tabWidth * count ≤ Text.maxBytes
  bytes : Text.byteLength editor.register.text * count ≤ Text.maxBytes

/-- Whether the cursor lies between the CR and the LF of one break. -/
def cursorSplitsBreak (editor : Editor) : Bool :=
  Text.splitsBreak editor.buffer.text editor.position

variable
  {editor : Editor}
  {description : String}

/-- A command stops the program exactly if it overflows. -/
theorem ending_eq_stops_iff
    {overflows : Bool}
    {command : CommandM Unit} :
    editor.ending overflows description command = .stops ↔ overflows = true := by
  unfold ending
  split
  · simp_all
  · split <;> simp_all

/-- A command that does not stop the program is refused, or it returns. -/
theorem ending_of_not_overflows
    {overflows : Bool}
    {command : CommandM Unit}
    (goesOn : overflows = false) :
    ((∃ error, editor.ending overflows description command = .refused error) ↔
        editor.Refuses description command) ∧
      (editor.ending overflows description command = .returns ↔
        ¬ editor.Refuses description command) := by
  unfold ending Refuses
  rw [goesOn, if_neg Bool.false_ne_true]
  cases ((editor.beginGroup description).attempt command).1 <;> simp

/-- A command that the buffer accepts is not refused, whether it stops the program or not. -/
theorem ending_ne_refused
    {overflows : Bool}
    {command : CommandM Unit}
    (accepted : ¬ editor.Refuses description command)
    (error : EditError) :
    editor.ending overflows description command ≠ .refused error := by
  intro isRefused
  cases overflows with
  | false =>
      exact accepted ((ending_of_not_overflows rfl).1.mp ⟨error, isRefused⟩)
  | true =>
      exact nomatch isRefused

section Counts

variable {count : Nat} (holdsCount : editor.HoldsCount count)

include holdsCount

/-- The line of a place has a number that makes a machine word with the count. -/
theorem HoldsCount.lines : editor.currentLine + count ≤ Text.maxWord64 := by
  have notBehind : editor.currentLine ≤ editor.buffer.clamp editor.position :=
    Text.lineOfIn_le_place _ _
  have inText := editor.buffer.clamp_le editor.position
  have places := holdsCount.places
  omega

theorem HoldsCount.not_blockOverflows :
    Buffer.blockOverflows editor.currentLine count = false := by
  have lines := holdsCount.lines
  have some := holdsCount.some
  unfold Buffer.blockOverflows
  rw [decide_eq_false_iff_not]
  omega

theorem HoldsCount.not_unitsOverflow (right : Bool) :
    Commands.unitsOverflow editor right count = false := by
  have units := holdsCount.units
  have isWord : Text.maxBytes ≤ Text.maxWord64 := by
    decide
  unfold Commands.unitsOverflow
  rw [decide_eq_false_iff_not]
  cases right <;> simp only [Bool.false_eq_true, if_true, if_false] <;> omega

/-- No action overflows with a count that makes machine words. -/
theorem HoldsCount.not_actionOverflows
    (inText : editor.CursorInText)
    {context : CommandContext}
    (sameCount : context.count = count)
    (action : Action) :
    Commands.actionOverflows editor context action = false := by
  subst sameCount
  have placed := inText.position
  have places := holdsCount.places
  have some := holdsCount.some
  have noBlock := holdsCount.not_blockOverflows
  have noUnits (right : Bool) := holdsCount.not_unitsOverflow right
  cases action with
  | move motion | delete motion | change motion | yank motion =>
      have inText := editor.buffer.clamp_le editor.position
      unfold Commands.actionOverflows Motion.overflows
      rw [decide_eq_false_iff_not]
      rintro ⟨-, tooFar⟩
      rw [show (Commands.motionArgs editor context).count = context.count from rfl] at tooFar
      omega
  | deleteLines | changeLines | yankLines =>
      exact noBlock
  | comment mode =>
      show (_ && _) = false
      rw [noBlock, Bool.and_false]
  | indent | outdent =>
      show Commands.shiftOverflows editor _ context = false
      unfold Commands.shiftOverflows
      split
      · rw [noUnits, Bool.and_false]
      · exact noBlock
  | deleteChar | substituteChar =>
      exact decide_eq_false (by omega)
  | replaceChar =>
      show Commands.replaceOverflows editor context = false
      have fits : ¬ Text.maxWord64 < editor.position + context.count := by
        omega
      have notAtStart : ¬ editor.position + context.count = 0 := by
        omega
      unfold Commands.replaceOverflows
      simp only [fits, notAtStart, decide_false, Bool.or_false, Bool.and_false]
  | paste before =>
      show Commands.pasteOverflows editor context = false
      unfold Commands.pasteOverflows
      cases isEmpty : editor.register.isEmpty with
      | true =>
          simp only [isEmpty, Bool.not_true, Bool.false_and]
      | false =>
          have fits := Nat.not_lt_of_le holdsCount.bytes
          have someText : 0 < editor.register.text.length :=
            List.length_pos_iff.mpr (List.isEmpty_eq_false_iff.mp isEmpty)
          have pasted : ¬ editor.position + editor.register.text.length * context.count = 0 := by
            have somePasted := Nat.mul_pos someText some
            omega
          simp only [fits, pasted, decide_false, Bool.and_false, Bool.or_false]
  | _ =>
      rfl

end Counts

/-- Of the keys of insert mode only taking indentation away overflows. -/
theorem HoldsCount.insertKeyOverflows_iff
    (holdsOne : editor.HoldsCount 1)
    (key : Commands.InsertKey) :
    Commands.insertKeyOverflows editor key = true ↔
      key = .outdent ∧ Commands.outdentOverflows editor = true := by
  have places := holdsOne.places
  cases key with
  | outdent =>
      exact (and_iff_right rfl).symm
  | move motion =>
      have inText := editor.buffer.clamp_le editor.position
      unfold Commands.insertKeyOverflows Motion.overflows
      rw [decide_eq_true_iff]
      constructor
      · rintro ⟨-, tooFar⟩
        dsimp only at tooFar
        omega
      · rintro ⟨isOutdent, -⟩
        contradiction
  | _ =>
      simp [Commands.insertKeyOverflows]

theorem not_refuses_of_sure
    {fixedMode : Prop}
    {command : CommandM Unit}
    (sure : command.Sure fixedMode (editor.beginGroup description)) :
    ¬ editor.Refuses description command := by
  rintro ⟨error, refused⟩
  obtain ⟨result, accepted⟩ := sure.accepted
  exact nomatch accepted.symm.trans refused

/-- Undoing and redoing replay steps of the buffer, and end where one is refused. -/
theorem not_refuses_replay
    (step : Buffer → Except EditError Nat × Buffer)
    (refusal : String)
    (count : Nat) :
    ¬ editor.Refuses description (Commands.replay step refusal count) := by
  rintro ⟨error, refused⟩
  obtain ⟨after, ended, _⟩ :=
    Commands.replay_runOn step refusal count (editor.beginGroup description)
  exact nomatch (congrArg Prod.fst ended).symm.trans refused

/-- Deleting to the end of the line is refused behind that end. -/
theorem refuses_deleteToLineEnd
    (behind : editor.buffer.lineEnd editor.currentLine < editor.position) :
    editor.Refuses description Commands.deleteToLineEnd := by
  have unordered :
      (editor.beginGroup description).buffer.delete editor.position
          (editor.buffer.lineEnd editor.currentLine) =
        .error (.invalidRange editor.position (editor.buffer.lineEnd editor.currentLine)) :=
    if_pos behind
  have refused :
      (CommandM.delete ⟨editor.position, editor.buffer.lineEnd editor.currentLine⟩).runOn
          (editor.beginGroup description) =
        (.error (.invalidRange editor.position (editor.buffer.lineEnd editor.currentLine)),
          editor.beginGroup description) := by
    unfold CommandM.delete
    rw [CommandM.runOn_edit, unordered]
  refine ⟨.invalidRange editor.position (editor.buffer.lineEnd editor.currentLine), ?_⟩
  show (Commands.deleteToLineEnd.runOn (editor.beginGroup description)).1 = _
  unfold Commands.deleteToLineEnd
  rw [CommandM.runOn_get_bind]
  exact congrArg Prod.fst (CommandM.runOn_bind_of_error refused)

/-- With the cursor in the text one action is refused, and only within a break. -/
theorem refuses_runAction_iff
    (inText : editor.CursorInText)
    (action : Action)
    (context : CommandContext) :
    editor.Refuses description (Commands.runAction action context) ↔
      action = .deleteToLineEnd ∧ editor.cursorSplitsBreak = true := by
  have behind := editor.buffer.lineEnd_lineOf_lt_iff inText.position
  constructor
  · intro refused
    by_cases isUndo : action = .undo
    · subst isUndo
      rw [show Commands.runAction .undo context = Commands.undo context.count from rfl,
        Commands.undo_eq_replay] at refused
      exact absurd refused (not_refuses_replay _ _ _)
    by_cases isRedo : action = .redo
    · subst isRedo
      rw [show Commands.runAction .redo context = Commands.redo context.count from rfl,
        Commands.redo_eq_replay] at refused
      exact absurd refused (not_refuses_replay _ _ _)
    have sureIf :
        (Commands.runAction action context).SureIf _ False (editor.beginGroup description) :=
      Commands.runAction_sureIf isUndo isRedo context
    by_cases onLine :
        action = .deleteToLineEnd →
          editor.position ≤ editor.buffer.lineEnd editor.currentLine
    · have sure := sureIf.sure ⟨⟨inText.position, inText.anchor⟩, onLine⟩
      exact absurd refused (not_refuses_of_sure sure)
    · rw [Classical.not_imp, Nat.not_le] at onLine
      exact ⟨onLine.1, behind.mp onLine.2⟩
  · rintro ⟨rfl, splits⟩
    exact refuses_deleteToLineEnd (behind.mpr splits)

/-- Deleting to the end of the line never overflows; the other actions are never refused. -/
theorem ending_runAction_refused_iff
    (inText : editor.CursorInText)
    (action : Action)
    (context : CommandContext) :
    (∃ error,
        editor.ending (Commands.actionOverflows editor context action) description
            (Commands.runAction action context) =
          .refused error) ↔
      action = .deleteToLineEnd ∧ editor.cursorSplitsBreak = true := by
  cases overflows : Commands.actionOverflows editor context action with
  | false =>
      rw [(ending_of_not_overflows rfl).1, refuses_runAction_iff inText]
  | true =>
      have stops : editor.ending true description (Commands.runAction action context) = .stops :=
        ending_eq_stops_iff.mpr rfl
      rw [stops]
      constructor
      · rintro ⟨error, isRefused⟩
        contradiction
      · rintro ⟨rfl, -⟩
        contradiction

end Editor

end ChordEditor
