import ChordEditor.Proofs.Commands.Shifting
import ChordEditor.Proofs.Session.DeleteThenPaste

namespace ChordEditor.Editor

/-!
# Blocks of lines shifted there and back

A block of lines that is shifted to the right and then, by as many units, to the left is
as it was, but for lines that hold nothing but blanks.  These are left alone by the first
shift and lose their indentation by the second one.
-/

/-- An action shifts the lines of a block to one side by some units. -/
def Shifts
    (right : Bool)
    (lines : LineRange)
    (units : Nat)
    (before after : Editor) : Prop :=
  ∃ (operation : Operation) (context : CommandContext),
    operation.actionOn? before = some (if right then .indent else .outdent, context) ∧
      before.linesActedOn context.count = lines ∧
        (if before.mode.isVisual then context.count else 1) = units ∧
          after = operation.run before

variable
  {editor once between twice : Editor}
  {lines : LineRange}
  {units : Nat}

/-- The lines of the block are shifted, and no other ones. -/
theorem Shifts.hasLines
    {right : Bool}
    {own : List (List Char)}
    (shifts : editor.Shifts right lines units once)
    (hasLines : editor.buffer.HasLines own) :
    once.buffer.HasLines
      (Commands.blockShifted right editor.settings.tabWidth units lines own) := by
  obtain ⟨operation, context, runs, rfl, rfl, rfl⟩ := shifts
  have accepted (dispatcher : Dispatcher) :
      ∃ left,
        (Commands.runAction (if right then .indent else .outdent) context).runOn
            (editor.asked dispatcher (if right then .indent else .outdent)) = (.ok (), left) ∧
          left.buffer.HasLines
            (Commands.blockShifted right editor.settings.tabWidth
              (if editor.mode.isVisual then context.count else 1)
              (editor.linesActedOn context.count) own) := by
    have askedHas :
        (editor.asked dispatcher (if right then .indent else .outdent)).buffer.HasLines own :=
      hasLines.of_text_eq rfl
    cases right <;> exact Commands.shift_runOn askedHas _ context
  obtain ⟨left, leftHas, seen⟩ := run_of_accepted runs accepted
  exact leftHas.of_text_eq seen.text

end ChordEditor.Editor
