import ChordEditor.Proofs.Buffer.Performing

namespace ChordEditor.Buffer

/-!
# Versions

The version of a buffer only grows, and the text cannot change without it.  So two
states of one buffer that have the same version have the same text.
-/

/-- Every change of the text on the way from one buffer to the other is counted. -/
structure Counts (before after : Buffer) : Prop where
  version_le : before.version ≤ after.version
  text_eq : after.version = before.version → after.text = before.text

namespace Counts

theorem refl (buffer : Buffer) : buffer.Counts buffer :=
  ⟨Nat.le_refl _, fun _ => rfl⟩

theorem trans
    {first second third : Buffer}
    (earlier : first.Counts second)
    (later : second.Counts third) :
    first.Counts third := by
  have firstLe := earlier.version_le
  have secondLe := later.version_le
  constructor
  · exact Nat.le_trans firstLe secondLe
  -- Where the version is the first one again, it has not moved on in between.
  · intro sameVersion
    have laterText := later.text_eq (by omega)
    have earlierText := earlier.text_eq (by omega)
    exact laterText.trans earlierText

/-- What leaves the text alone need not be counted. -/
theorem of_sameText
    {before after : Buffer}
    (sameVersion : after.version = before.version)
    (sameText : after.text = before.text) :
    before.Counts after :=
  ⟨Nat.le_of_eq sameVersion.symm, fun _ => sameText⟩

theorem applyEdit
    (buffer : Buffer)
    (edit : Edit) :
    buffer.Counts (buffer.applyEdit edit) := by
  have counted : (buffer.applyEdit edit).version = buffer.version + 1 := rfl
  constructor
  · omega
  · intro sameVersion
    omega

theorem reapplyAll
    (buffer : Buffer)
    (edits : List Edit) :
    buffer.Counts (buffer.reapplyAll edits) := by
  induction edits generalizing buffer with
  | nil =>
      exact .refl buffer
  | cons edit edits inductionHypothesis =>
      exact (applyEdit buffer edit).trans (inductionHypothesis (buffer.applyEdit edit))

theorem revertAll
    (buffer : Buffer)
    (edits : List Edit) :
    buffer.Counts (buffer.revertAll edits) := by
  rw [revertAll_eq_reapplyAll]
  exact reapplyAll buffer _

/-- A history that is exchanged changes no text. -/
theorem setHistory
    (buffer : Buffer)
    (history : History) :
    buffer.Counts { buffer with history } :=
  of_sameText rfl rfl

theorem rollbackGroup (buffer : Buffer) : buffer.Counts buffer.rollbackGroup :=
  (setHistory buffer _).trans (revertAll _ _)

end Counts

/-- New edits are counted. -/
theorem Performs.counts
    {before after : Buffer}
    (performs : before.Performs after) :
    before.Counts after := by
  induction performs with
  | nothing =>
      exact .refl before
  | edit earlier edit fits inductionHypothesis =>
      exact inductionHypothesis.trans
        ((Counts.applyEdit _ edit).trans (.setHistory _ _))

theorem undo_counts (buffer : Buffer) : buffer.Counts buffer.undo.2 := by
  unfold undo
  dsimp only
  split
  · exact .setHistory buffer _
  · exact (Counts.setHistory buffer _).trans
      ((Counts.revertAll _ _).trans (.setHistory _ _))

theorem redo_counts (buffer : Buffer) : buffer.Counts buffer.redo.2 := by
  unfold redo
  split
  · exact .refl buffer
  · exact (Counts.reapplyAll buffer _).trans (.setHistory _ _)

end ChordEditor.Buffer
