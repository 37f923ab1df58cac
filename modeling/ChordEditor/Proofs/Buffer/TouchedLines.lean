import ChordEditor.Proofs.Buffer.EditsMade
import ChordEditor.Proofs.Buffer.RedoSide

namespace ChordEditor.Buffer

/-!
# What has been touched between two looks

Between two times that the touched lines are asked for, any calls may change the text.
If none of them brings a CR into it, the lines that are told cover all that has changed:
the lines before them are those of the old text, and so are the lines behind them,
counted from the end.  If no lines are told the text is the old one.

Undoing, redoing and rolling back bring back what the history holds.  A buffer into which
no CR ever came has none in its history either.
-/

/-- Neither the text of a call nor an edit that it replays has a CR. -/
def Call.BringsNoReturn (call : Call) (buffer : Buffer) : Prop :=
  '\r' ∉ call.brought ∧
    ∀ edit ∈ (call.replayed? buffer).getD [], '\r' ∉ edit.piece

/-- No call brings a CR into the buffer that it is made on. -/
def EachBringsNoReturn : Buffer → List Call → Prop
  | _, [] => True
  | buffer, call :: calls =>
      call.BringsNoReturn buffer ∧ EachBringsNoReturn (call.run buffer) calls

/-- What is done with a buffer: it is called, or asked for the touched lines. -/
inductive Use where
  | call (made : Call)
  | takeDirty

namespace Use

/-- The buffer after it was used. -/
def run (use : Use) (buffer : Buffer) : Buffer :=
  match use with
  | .call made => made.run buffer
  | .takeDirty => buffer.takeDirty.2

/-- The text that a use brings into the buffer, apart from what the history holds. -/
def brought : Use → List Char
  | .call made => made.brought
  | .takeDirty => []

end Use

/-- The buffer after it was used several times. -/
def afterUses (buffer : Buffer) (uses : List Use) : Buffer :=
  uses.foldl (fun between use => use.run between) buffer

/--
From a text without CR the other one comes by edits that bring none, and those that are
new in the history have none.
-/
def KeepsReturnsOut (before after : Buffer) : Prop :=
  '\r' ∉ before.text →
    before.ChangesBy BringsNoReturn after ∧
      ∀ edit ∈ after.history.edits, '\r' ∉ edit.piece ∨ edit ∈ before.history.edits

namespace KeepsReturnsOut

variable {before between after : Buffer}

theorem refl (buffer : Buffer) : buffer.KeepsReturnsOut buffer :=
  fun _ => ⟨.nothing, fun _ isIn => .inr isIn⟩

theorem trans
    (earlier : before.KeepsReturnsOut between)
    (later : between.KeepsReturnsOut after) :
    before.KeepsReturnsOut after := by
  intro noReturn
  obtain ⟨first, betweenEdits⟩ := earlier noReturn
  obtain ⟨second, afterEdits⟩ := later (first.noted_of_no_return noReturn).2
  refine ⟨first.trans second, ?_⟩
  intro edit isIn
  rcases afterEdits edit isIn with pieceFree | wasIn
  · exact .inl pieceFree
  · exact betweenEdits edit wasIn

/-- A new edit that brings no CR keeps it out. -/
theorem perform
    {edit : Edit}
    (fits : edit.Fits before.text)
    (bringsNone : '\r' ∉ edit.piece) :
    before.KeepsReturnsOut (before.perform edit) := by
  intro _
  refine ⟨.history (.edit .nothing edit ⟨fits, bringsNone⟩) _, ?_⟩
  intro other isIn
  rcases History.mem_edits_record isIn with rfl | wasIn
  · exact .inl bringsNone
  · exact .inr wasIn

theorem insert
    {place : Nat}
    {piece : List Char}
    (noReturn : '\r' ∉ piece)
    (accepted : before.insert place piece = .ok after) :
    before.KeepsReturnsOut after := by
  rw [insert_eq] at accepted
  split at accepted
  · contradiction
  · rename_i inRange
    split at accepted
    · cases accepted
      exact refl before
    · cases accepted
      exact perform (Nat.le_of_not_lt inRange) noReturn

/-- What is deleted stood in the text, so it has no CR either. -/
theorem delete
    {start stop : Nat}
    {removed : List Char}
    (accepted : before.delete start stop = .ok (removed, after)) :
    before.KeepsReturnsOut after := by
  intro noReturn
  have sliceFree : '\r' ∉ before.slice start stop :=
    fun found => noReturn (List.mem_of_mem_take (List.mem_of_mem_drop found))
  rw [delete_eq] at accepted
  split at accepted
  · contradiction
  · rename_i ordered
    split at accepted
    · contradiction
    · rename_i inRange
      have fits : (Edit.delete start (before.slice start stop)).Fits before.text :=
        fits_delete_slice (Nat.le_of_not_lt ordered) (Nat.le_of_not_lt inRange)
      split at accepted
      · cases accepted
        exact refl before noReturn
      · cases accepted
        exact perform fits sliceFree noReturn

/-- Changes whose own texts have no CR keep it out. -/
theorem keptByChanges : KeptByChanges ('\r' ∉ ·) KeepsReturnsOut where
  refl := refl
  trans := trans
  insert := insert
  delete := delete

end KeepsReturnsOut

variable {buffer : Buffer}

/-- In a text without CR, a call that brings none makes edits that bring none. -/
theorem Call.BringsNoReturn.changesBy
    {call : Call}
    (bringsNone : call.BringsNoReturn buffer)
    (sound : buffer.Sound)
    (noReturn : '\r' ∉ buffer.text) :
    buffer.ChangesBy Buffer.BringsNoReturn (call.run buffer) := by
  cases changes : call.isChange with
  | true =>
      have keeps := Call.keeps_of_isChange KeepsReturnsOut.keptByChanges changes bringsNone.1
      exact (keeps buffer noReturn).1
  | false =>
      apply (sound.changesBy_replayed changes).imp
      rintro edit text ⟨fits, isReplayed⟩
      exact ⟨fits, bringsNone.2 edit isReplayed⟩

/-- In a text without CR, calls that bring none make edits that bring none. -/
theorem EachBringsNoReturn.changesBy
    {calls : List Call}
    (bringNone : buffer.EachBringsNoReturn calls)
    (sound : buffer.Sound)
    (noReturn : '\r' ∉ buffer.text) :
    buffer.ChangesBy Buffer.BringsNoReturn (buffer.afterAll calls) := by
  induction calls generalizing buffer with
  | nil =>
      exact .nothing
  | cons call calls inductionHypothesis =>
      have first := bringNone.1.changesBy sound noReturn
      exact first.trans
        (inductionHypothesis bringNone.2 (sound.run call) (first.noted_of_no_return noReturn).2)

/-- A sound buffer without CR, neither in its text nor in its history. -/
structure ReturnFree (buffer : Buffer) : Prop where
  sound : buffer.Sound
  text : '\r' ∉ buffer.text
  history : ∀ edit ∈ buffer.history.edits, '\r' ∉ edit.piece

namespace ReturnFree

/-- Where there is no CR, a call without CR in its text brings none. -/
theorem bringsNoReturn
    {call : Call}
    (free : buffer.ReturnFree)
    (bringsNone : '\r' ∉ call.brought) :
    call.BringsNoReturn buffer := by
  refine ⟨bringsNone, ?_⟩
  intro edit isReplayed
  cases replayed : call.replayed? buffer with
  | none =>
      simp [replayed] at isReplayed
  | some edits =>
      rw [replayed, Option.getD_some] at isReplayed
      rcases mem_edits_of_replayed replayed isReplayed with isKnown | takesBack
      · exact free.history edit isKnown
      · have pieceFree := free.history edit.inverse takesBack
        cases edit <;> exact pieceFree

/-- A call without CR in its text leaves a buffer without CR. -/
theorem run
    {call : Call}
    (free : buffer.ReturnFree)
    (bringsNone : '\r' ∉ call.brought) :
    (call.run buffer).ReturnFree := by
  have edits := (free.bringsNoReturn bringsNone).changesBy free.sound free.text
  refine ⟨free.sound.run call, (edits.noted_of_no_return free.text).2, ?_⟩
  intro edit isIn
  cases changes : call.isChange with
  | true =>
      have keeps := Call.keeps_of_isChange KeepsReturnsOut.keptByChanges changes bringsNone
      rcases (keeps buffer free.text).2 edit isIn with pieceFree | wasIn
      · exact pieceFree
      · exact free.history edit wasIn
  | false =>
      exact free.history edit (mem_edits_run changes isIn)

/-- Where there is no CR, calls without CR in their texts bring none. -/
theorem eachBringsNoReturn
    {calls : List Call}
    (free : buffer.ReturnFree)
    (bringNone : ∀ call ∈ calls, '\r' ∉ call.brought) :
    buffer.EachBringsNoReturn calls := by
  induction calls generalizing buffer with
  | nil =>
      trivial
  | cons call calls inductionHypothesis =>
      have bringsNone := bringNone call List.mem_cons_self
      refine ⟨free.bringsNoReturn bringsNone, inductionHypothesis (free.run bringsNone) ?_⟩
      exact fun later isLater => bringNone later (List.mem_cons_of_mem call isLater)

end ReturnFree

/-- Asking for the touched lines leaves a buffer sound. -/
theorem Sound.takeDirty (sound : buffer.Sound) : buffer.takeDirty.2.Sound :=
  sound

/-- What every use preserves holds after several. -/
theorem afterUses_induction
    {holds : Buffer → Prop}
    {uses : List Use}
    (preserved : ∀ use ∈ uses, ∀ between, holds between → holds (use.run between))
    (atStart : holds buffer) :
    holds (buffer.afterUses uses) := by
  induction uses generalizing buffer with
  | nil =>
      exact atStart
  | cons use uses inductionHypothesis =>
      have used := preserved use List.mem_cons_self buffer atStart
      exact inductionHypothesis
        (fun later isLater => preserved later (List.mem_cons_of_mem use isLater)) used

/-- A buffer with a text is sound, whatever it is used for. -/
theorem sound_afterUses
    (text : List Char)
    (uses : List Use) :
    ((ofText text).afterUses uses).Sound := by
  apply afterUses_induction _ (sound_ofText text)
  intro use _ between sound
  cases use with
  | call made => exact sound.run made
  | takeDirty => exact sound.takeDirty

/-- A buffer into which no CR came has none. -/
theorem returnFree_afterUses
    {text : List Char}
    {uses : List Use}
    (noReturn : '\r' ∉ text)
    (bringNone : ∀ use ∈ uses, '\r' ∉ use.brought) :
    ((ofText text).afterUses uses).ReturnFree := by
  have atStart : (ofText text).ReturnFree :=
    ⟨sound_ofText text, noReturn, by simp [ofText, History.edits, History.pending]⟩
  apply afterUses_induction _ atStart
  intro use isUse between free
  cases use with
  | call made => exact free.run (bringNone _ isUse)
  | takeDirty => exact ⟨free.sound.takeDirty, free.text, free.history⟩

/--
Whatever is done with a buffer between two times that it is asked for the touched lines:
as long as no CR comes into the text, the lines that are told the second time cover all
that has changed since the first time, and if none are told nothing has changed.  No CR
comes into it if there is none in the text at the start, and none in what is brought.
-/
theorem takeDirty_covers_changes
    (text : List Char)
    (earlier : List Use)
    (calls : List Call) :
    let before := ((ofText text).afterUses earlier).takeDirty.2
    let after := before.afterAll calls
    ('\r' ∉ before.text → before.EachBringsNoReturn calls →
        match after.takeDirty.1 with
        | none => after.text = before.text
        | some touched => touched.Covers before.lineTexts after.lineTexts) ∧
      ('\r' ∉ text → (∀ use ∈ earlier, '\r' ∉ use.brought) →
        (∀ call ∈ calls, '\r' ∉ call.brought) →
          '\r' ∉ before.text ∧ before.EachBringsNoReturn calls) := by
  intro before after
  constructor
  · intro noReturn bringNone
    have sound : before.Sound := (sound_afterUses text earlier).takeDirty
    have changes := bringNone.changesBy sound noReturn
    -- Nothing is noted before the first call, so what is noted then is noted by the calls.
    have notes : NotesChanges before.lineTexts after :=
      (changes.noted_of_no_return noReturn).1.notesChanges rfl
    show match after.dirty with
      | none => after.text = before.text
      | some touched => touched.Covers before.lineTexts after.lineTexts
    unfold NotesChanges at notes
    split
    · exact changes.text_of_clean ‹_›
    · rename_i touched noted
      rw [noted] at notes
      exact notes
  · intro noReturn earlierBringNone bringNone
    have used := returnFree_afterUses noReturn earlierBringNone
    have free : before.ReturnFree := ⟨used.sound.takeDirty, used.text, used.history⟩
    exact ⟨free.text, free.eachBringsNoReturn bringNone⟩

/-- A line that is broken, mended and broken again, with a deletion that is rolled back. -/
theorem touched_by_redo_and_rollback :
    let before :=
      ((ofText ['a', '\n', 'b', '\n', 'c']).afterUses [.call (.insert 1 ['\n'])]).takeDirty.2
    let after :=
      before.afterAll
        [.insert 4 ['x', '\n', 'y'], .undo, .redo, .beginGroup "", .delete 3 5, .rollbackGroup]
    before.lineTexts = [['a'], [], ['b'], ['c']] ∧
      after.lineTexts = [['a'], [], ['b', 'x'], ['y'], ['c']] ∧
        after.takeDirty.1 = some ⟨2, 3⟩ ∧
          (LineRange.mk 2 3).Covers before.lineTexts after.lineTexts := by
  intro before after
  have told : after.takeDirty.1 = some ⟨2, 3⟩ := by
    decide +kernel
  have claim := takeDirty_covers_changes ['a', '\n', 'b', '\n', 'c'] [.call (.insert 1 ['\n'])]
    [.insert 4 ['x', '\n', 'y'], .undo, .redo, .beginGroup "", .delete 3 5, .rollbackGroup]
  obtain ⟨noReturn, bringNone⟩ :=
    claim.2 (by decide) (by simp [Use.brought, Call.brought]) (by simp [Call.brought])
  have covers :
      match after.takeDirty.1 with
      | none => after.text = before.text
      | some touched => touched.Covers before.lineTexts after.lineTexts :=
    claim.1 noReturn bringNone
  rw [told] at covers
  exact ⟨by decide +kernel, by decide +kernel, told, covers⟩

end ChordEditor.Buffer
