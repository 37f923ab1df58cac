import ChordEditor.Commands.Run
import ChordEditor.Proofs.Buffer.Grouping
import ChordEditor.Proofs.Commands.Working

namespace ChordEditor

/-!
# Undo and redo as commands

Both commands take one step of the buffer after the other until one is refused, and
are never refused themselves.
-/

namespace Buffer

/-- The buffer after some steps, or after the first one that is refused. -/
def replayed
    (step : Buffer → Except EditError Nat × Buffer) : Nat → Buffer → Buffer
  | 0, buffer => buffer
  | count + 1, buffer =>
      match step buffer with
      | (.ok _, next) => replayed step count next
      | (.error _, next) => next

/-- What every step preserves is preserved by several. -/
theorem replayed_induction
    {holds : Buffer → Prop}
    {step : Buffer → Except EditError Nat × Buffer}
    (preserved : ∀ buffer, holds buffer → holds (step buffer).2)
    (count : Nat)
    {buffer : Buffer}
    (atStart : holds buffer) :
    holds (replayed step count buffer) := by
  induction count generalizing buffer with
  | zero =>
      exact atStart
  | succ count inductionHypothesis =>
      have next := preserved buffer atStart
      unfold replayed
      split
      · rename_i stepped
        rw [stepped] at next
        exact inductionHypothesis next
      · rename_i stepped
        rw [stepped] at next
        exact next

/-- After one undo or more no group is open. -/
theorem replayed_undo_groupDepth
    {count : Nat}
    (some_steps : 0 < count)
    (buffer : Buffer) :
    (replayed undo count buffer).groupDepth = 0 := by
  rw [groupDepth_eq_zero_iff]
  cases count with
  | zero =>
      contradiction
  | succ count =>
      have idle := undo_collecting buffer
      unfold replayed
      split
      · rename_i stepped
        rw [stepped] at idle
        exact
          @replayed_induction (fun buffer => buffer.history.collecting = none) undo
            (fun buffer _ => undo_collecting buffer) count _ idle
      · rename_i stepped
        rw [stepped] at idle
        exact idle

/-- Redoing opens and ends no group. -/
theorem replayed_redo_groupDepth
    (count : Nat)
    (buffer : Buffer) :
    (replayed redo count buffer).groupDepth = buffer.groupDepth := by
  have preserved
      (other : Buffer)
      (same : other.groupDepth = buffer.groupDepth) :
      other.redo.2.groupDepth = buffer.groupDepth := by
    rw [← same]
    unfold groupDepth History.groupDepth
    rw [redo_collecting]
  exact
    @replayed_induction (fun other => other.groupDepth = buffer.groupDepth) redo
      preserved count _ rfl

/-- One step is taken whether it is refused or not. -/
theorem replayed_one
    (step : Buffer → Except EditError Nat × Buffer)
    (buffer : Buffer) :
    replayed step 1 buffer = (step buffer).2 := by
  unfold replayed
  split
  · rename_i stepped
    rw [stepped]
    rfl
  · rename_i stepped
    rw [stepped]

end Buffer

namespace Commands

/-- A command that takes steps of the buffer, and tells when one is refused. -/
def replay
    (step : Buffer → Except EditError Nat × Buffer)
    (refusal : String) : Nat → CommandM Unit
  | 0 => return
  | count + 1 => do
      let editor ← get
      match step editor.buffer with
      | (.ok place, buffer) =>
          set ({ editor with buffer }.setCursor place)
          replay step refusal count
      | (.error _, buffer) => set ({ editor with buffer }.tell refusal)

/-- Undoing replays undo steps. -/
theorem undo_eq_replay (count : Nat) :
    undo count = replay Buffer.undo "Already at oldest change" count := by
  induction count with
  | zero =>
      rfl
  | succ count inductionHypothesis =>
      unfold undo replay
      rewrite [inductionHypothesis]
      rfl

/-- Redoing replays redo steps. -/
theorem redo_eq_replay (count : Nat) :
    redo count = replay Buffer.redo "Already at newest change" count := by
  induction count with
  | zero =>
      rfl
  | succ count inductionHypothesis =>
      unfold redo replay
      rewrite [inductionHypothesis]
      rfl

/-- Replaying is not refused, keeps session and mode, and takes the steps of the buffer. -/
theorem replay_runOn
    (step : Buffer → Except EditError Nat × Buffer)
    (refusal : String)
    (count : Nat)
    (editor : Editor) :
    ∃ after,
      (replay step refusal count).runOn editor = (.ok (), after) ∧
        editor.KeepsSession after ∧
        after.mode = editor.mode ∧
        after.buffer = Buffer.replayed step count editor.buffer := by
  induction count generalizing editor with
  | zero =>
      exact ⟨editor, rfl, ⟨rfl, rfl, rfl, rfl⟩, rfl, rfl⟩
  | succ count inductionHypothesis =>
      unfold replay Buffer.replayed
      rw [CommandM.runOn_get_bind]
      cases stepped : step editor.buffer with
      | mk result buffer =>
          cases result with
          | error error =>
              exact ⟨_, rfl, ⟨rfl, rfl, rfl, rfl⟩, rfl, rfl⟩
          | ok place =>
              obtain ⟨after, ended, keeps, mode, replayed⟩ :=
                inductionHypothesis ({ editor with buffer }.setCursor place)
              exact ⟨after, ended,
                ⟨keeps.grammar, keeps.highlight, keeps.insertGroupOpen, keeps.grammars⟩, mode,
                replayed⟩

end Commands

end ChordEditor
