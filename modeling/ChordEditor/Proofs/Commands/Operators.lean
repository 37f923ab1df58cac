import ChordEditor.Proofs.Commands.Pasting

namespace ChordEditor

/-!
# Operators over the span of a motion

Delete and change take the span of a motion out of the text and store it if it holds
something; yank stores it and takes nothing out.  All three put the cursor where the span
starts.
-/

/-- The motion that an action operates over. -/
def Action.operand? : Action → Option Motion
  | .delete motion | .change motion | .yank motion => some motion
  | _ => none

/-- Whether an action leaves the text that it operates over. -/
def Action.keepsOperand : Action → Bool
  | .yank _ => true
  | _ => false

namespace Editor

/-- What an action that operates over a span takes out of the text. -/
def removed (action : Action) (span : Span) : Span :=
  if action.keepsOperand then ⟨span.start, span.start⟩ else span

/-- What the register holds when an action has operated over a span. -/
def stored (editor : Editor) (action : Action) (span : Span) : Register :=
  if action.keepsOperand ∨ span.start < span.stop then
    ⟨editor.buffer.spanText span, false⟩
  else
    editor.register

/-- An action has operated over a span. -/
def OperatesOver (action : Action) (span : Span) (before after : Editor) : Prop :=
  before.TakesOut (removed action span) (before.stored action span) (fun _ => span.start) after

end Editor

namespace Commands

open CommandM

variable {editor : Editor}

/-- Where nothing is taken out the text stays. -/
theorem takesOut_nothing
    {place : Nat}
    {register : Register} :
    editor.TakesOut ⟨place, place⟩ register (fun _ => place)
      ({ editor with register }.setCursor place) := by
  refine ⟨?_, rfl, rfl⟩
  show editor.buffer.text = _
  rw [List.take_append_drop]

/-- A span of the text is deleted, and stored if it holds something. -/
theorem deleteSpan_operates
    {action : Action}
    {span : Span}
    (takes : action.keepsOperand = false)
    (isRange : span.IsRangeOf editor.buffer) :
    ∃ after,
      (deleteSpan span).runOn editor = (.ok (), after) ∧
        editor.OperatesOver action span after := by
  unfold Editor.OperatesOver Editor.removed Editor.stored
  rcases Nat.eq_or_lt_of_le isRange.ordered with isEmpty | someChar
  · obtain ⟨start, stop⟩ := span
    obtain rfl : start = stop := isEmpty
    refine ⟨editor.setCursor start, ?_, ?_⟩
    · simp [deleteSpan, Span.isEmpty]
      rfl
    · simpa [takes] using takesOut_nothing
  · simpa [takes, someChar, Buffer.spanText] using deleteSpan_takesOut someChar isRange.inText

/-- An operator with a motion that takes no whole lines operates over its span. -/
theorem runAction_operates
    {action : Action}
    {motion : Motion}
    {context : CommandContext}
    (operates : action.operand? = some motion)
    (charwise : motion.isLinewise = false) :
    ∃ after,
      (runAction action context).runOn editor = (.ok (), after) ∧
        editor.OperatesOver action (motionSpan editor motion context) after := by
  have isRange : (motionSpan editor motion context).IsRangeOf editor.buffer :=
    motion.operatorSpan_isRange editor.buffer _ _
  have notLinewise : ¬ motion.isLinewise = true := by
    rw [charwise]
    exact Bool.false_ne_true
  cases action with
  | delete operand =>
      cases operates
      rw [runAction, deleteTowards, runOn_get_bind, if_neg notLinewise]
      exact deleteSpan_operates rfl isRange
  | change operand =>
      cases operates
      obtain ⟨after, ended, taken⟩ :=
        @deleteSpan_operates editor (.change motion) _ rfl isRange
      refine ⟨after.setMode .insert, ?_, taken.setMode .insert⟩
      rw [runAction, changeTowards, runOn_get_bind, if_neg notLinewise, runOn_bind_of_ok ended]
      rfl
  | yank operand =>
      cases operates
      refine ⟨_, ?_, takesOut_nothing⟩
      rw [runAction, yankTowards, runOn_get_bind, if_neg notLinewise]
      rfl
  | _ =>
      contradiction

end Commands

end ChordEditor
