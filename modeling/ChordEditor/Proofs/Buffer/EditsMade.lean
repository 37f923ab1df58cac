import ChordEditor.Proofs.Buffer.Coverage
import ChordEditor.Proofs.Buffer.UndoRedo

namespace ChordEditor

/-!
# The edits that calls make

New edits fit the text, and so do those that are undone, redone or rolled back, because
they come from a history that accounts for the text.  The latter are edits of the
history, or take such edits back; and a history has no other edits than those that were
recorded in it.
-/

/-- Edits are taken back by their inverses. -/
theorem Edit.mem_takingBack
    {edits : List Edit}
    {edit : Edit} :
    edit ∈ Edit.takingBack edits ↔ edit.inverse ∈ edits := by
  unfold Edit.takingBack
  rw [List.mem_reverse, List.mem_map]
  constructor
  · rintro ⟨taken, isIn, rfl⟩
    rwa [inverse_inverse]
  · intro isIn
    exact ⟨edit.inverse, isIn, edit.inverse_inverse⟩

namespace History

/-- All edits of a history. -/
def edits (history : History) : List Edit :=
  history.done.flatMap EditGroup.edits ++ history.pending ++
    history.undone.flatMap EditGroup.edits

/-- An edit of a history is one of a group on a side, or is pending. -/
theorem mem_edits
    {history : History}
    {edit : Edit} :
    edit ∈ history.edits ↔
      (∃ group ∈ history.done, edit ∈ group.edits) ∨
        edit ∈ history.pending ∨ ∃ group ∈ history.undone, edit ∈ group.edits := by
  simp only [edits, List.mem_append, List.mem_flatMap, or_assoc]

/-- A group that is pushed brings its edits into the history. -/
theorem mem_edits_push
    {history : History}
    {group : EditGroup}
    {edit : Edit}
    (isIn : edit ∈ (history.push group).edits) :
    edit ∈ group.edits ∨ edit ∈ history.edits := by
  rw [mem_edits] at isIn
  rcases isIn with ⟨other, isDone, inOther⟩ | rest
  · rcases List.mem_cons.mp isDone with rfl | isKept
    · exact .inl inOther
    · have wasDone : other ∈ history.done := by
        split at isKept
        · exact (List.dropLast_sublist _).subset isKept
        · exact isKept
      exact .inr (mem_edits.mpr (.inl ⟨other, wasDone, inOther⟩))
  · exact .inr (mem_edits.mpr (.inr rest))

/-- Recording an edit brings no other one into the history. -/
theorem mem_edits_record
    {history : History}
    {recorded edit : Edit}
    (isIn : edit ∈ (history.record recorded).edits) :
    edit = recorded ∨ edit ∈ history.edits := by
  obtain ⟨done, undone, collecting⟩ := history
  cases collecting with
  | some collected =>
      rw [mem_edits] at isIn ⊢
      rcases isIn with isDone | isPending | ⟨group, isUndone, _⟩
      · exact .inr (.inl isDone)
      · rcases List.mem_append.mp isPending with wasPending | isNew
        · exact .inr (.inr (.inl wasPending))
        · exact .inl (List.mem_singleton.mp isNew)
      · cases isUndone
  | none =>
      rcases mem_edits_push isIn with inGroup | wasIn
      · exact .inl (by simpa [EditGroup.add] using inGroup)
      · rw [mem_edits] at wasIn ⊢
        rcases wasIn with isDone | isNone | ⟨group, isUndone, _⟩
        · exact .inr (.inl isDone)
        · cases isNone
        · cases isUndone

/-- Ending the group being collected moves its edits within the history. -/
theorem mem_edits_close
    {history : History}
    {collected : OpenGroup}
    {edit : Edit}
    (collecting : history.collecting = some collected)
    (isIn :
      edit ∈ ({ history with collecting := none }.pushUnlessEmpty collected.group).edits) :
    edit ∈ history.edits := by
  have isPending := pending_of_collecting collecting
  have others
      (wasIn : edit ∈ { history with collecting := none }.edits) :
      edit ∈ history.edits := by
    rw [mem_edits] at wasIn ⊢
    rcases wasIn with isDone | isNone | isUndone
    · exact .inl isDone
    · simp [pending] at isNone
    · exact .inr (.inr isUndone)
  unfold pushUnlessEmpty at isIn
  split at isIn
  · exact others isIn
  · rcases mem_edits_push isIn with inGroup | wasIn
    · exact mem_edits.mpr (.inr (.inl (isPending ▸ inGroup)))
    · exact others wasIn

theorem mem_edits_commitAll
    {history : History}
    {edit : Edit}
    (isIn : edit ∈ history.commitAll.edits) :
    edit ∈ history.edits := by
  unfold commitAll at isIn
  split at isIn
  · exact isIn
  · exact mem_edits_close ‹_› isIn

theorem mem_edits_commitGroup
    {history : History}
    {edit : Edit}
    (isIn : edit ∈ history.commitGroup.edits) :
    edit ∈ history.edits := by
  unfold commitGroup at isIn
  split at isIn
  · exact isIn
  · rename_i collected collecting
    split at isIn
    · rw [mem_edits] at isIn ⊢
      rw [pending_of_collecting collecting]
      exact isIn
    · exact mem_edits_close collecting isIn

/-- Beginning a group changes nothing in the edits of a history. -/
theorem edits_beginGroup
    (history : History)
    (description : String) :
    (history.beginGroup description).edits = history.edits := by
  obtain ⟨done, undone, collecting⟩ := history
  cases collecting <;> rfl

/-- The edits of a group that is given up are pending before. -/
theorem mem_edits_of_abandoned
    {history : History}
    {edit : Edit}
    (isIn : edit ∈ history.abandonGroup.1) :
    edit ∈ history.edits := by
  refine mem_edits.mpr (.inr (.inl ?_))
  obtain ⟨done, undone, collecting⟩ := history
  rcases collecting with _ | ⟨group, _ | ⟨size, outer⟩⟩
  · cases isIn
  · exact isIn
  · exact List.mem_of_mem_drop isIn

theorem mem_edits_abandonGroup
    {history : History}
    {edit : Edit}
    (isIn : edit ∈ history.abandonGroup.2.edits) :
    edit ∈ history.edits := by
  rw [mem_edits] at isIn ⊢
  obtain ⟨done, undone, collecting⟩ := history
  rcases collecting with _ | ⟨group, _ | ⟨size, outer⟩⟩
  · exact isIn
  · rcases isIn with isDone | isNone | isUndone
    · exact .inl isDone
    · cases isNone
    · exact .inr (.inr isUndone)
  · rcases isIn with isDone | isKept | isUndone
    · exact .inl isDone
    · exact .inr (.inl (List.mem_of_mem_take isKept))
    · exact .inr (.inr isUndone)

end History

namespace Buffer

/-- Edits that are allowed by one condition are allowed by a weaker one. -/
theorem ChangesBy.imp
    {allowed weaker : Edit → List Char → Prop}
    (implies : ∀ edit text, allowed edit text → weaker edit text)
    {before after : Buffer}
    (changes : before.ChangesBy allowed after) :
    before.ChangesBy weaker after := by
  induction changes with
  | nothing =>
      exact .nothing
  | edit _ edit isAllowed inductionHypothesis =>
      exact .edit inductionHypothesis edit (implies _ _ isAllowed)
  | history _ history inductionHypothesis =>
      exact .history inductionHypothesis history

/-- New edits that fit are fitting edits. -/
theorem Performs.changesBy
    {before after : Buffer}
    (performs : before.Performs after) :
    before.ChangesBy Edit.Fits after := by
  induction performs with
  | nothing =>
      exact .nothing
  | edit _ edit fits inductionHypothesis =>
      exact .history (.edit inductionHypothesis edit fits) _

/-- An edit that fits and is one of those known. -/
def FitsAmong (known : List Edit) (edit : Edit) (text : List Char) : Prop :=
  edit.Fits text ∧ edit ∈ known

/-- Edits that lead from a text to another one fit when they are replayed. -/
theorem changesBy_of_lead
    (buffer : Buffer)
    {known edits : List Edit}
    {after : List Char}
    (leads : Edit.Lead edits buffer.text after)
    (areKnown : edits ⊆ known) :
    buffer.ChangesBy (FitsAmong known) (buffer.reapplyAll edits) := by
  induction edits generalizing buffer with
  | nil =>
      exact .nothing
  | cons edit edits inductionHypothesis =>
      obtain ⟨fits, rest⟩ := leads
      obtain ⟨isKnown, othersKnown⟩ := List.cons_subset.mp areKnown
      have first : buffer.ChangesBy (FitsAmong known) (buffer.applyEdit edit) :=
        .edit .nothing edit ⟨fits, isKnown⟩
      exact first.trans (inductionHypothesis (buffer.applyEdit edit) rest othersKnown)

section Calls

variable {buffer : Buffer} {call : Call}

/-- A call that replays edits applies them and changes the history, and does nothing else. -/
theorem run_of_replayed
    {edits : List Edit}
    (replayed : call.replayed? buffer = some edits) :
    ∃ prepared,
      call.run buffer =
        { ({ buffer with history := prepared }.reapplyAll edits) with
          history := (call.run buffer).history } := by
  cases call with
  | rollbackGroup =>
      cases replayed
      have applied :
          buffer.rollbackGroup =
            { buffer with history := buffer.history.abandonGroup.2 }.reapplyAll
              (Edit.takingBack buffer.history.abandonGroup.1) :=
        revertAll_eq_reapplyAll _ _
      exact ⟨buffer.history.abandonGroup.2, by rw [← applied]; rfl⟩
  | undo =>
      cases done : buffer.history.commitAll.done with
      | nil =>
          simp [Call.replayed?, done] at replayed
      | cons group older =>
          simp only [Call.replayed?, done, List.head?_cons, Option.map_some,
            Option.some.injEq] at replayed
          subst replayed
          refine ⟨buffer.history.commitAll, ?_⟩
          simp only [Call.run, undo, done, revertAll_eq_reapplyAll]
  | redo =>
      cases undone : buffer.history.undone with
      | nil =>
          simp [Call.replayed?, undone] at replayed
      | cons group newer =>
          simp only [Call.replayed?, undone, List.head?_cons, Option.map_some,
            Option.some.injEq] at replayed
          subst replayed
          refine ⟨buffer.history, ?_⟩
          simp only [Call.run, redo, undone]
  | _ =>
      cases replayed

/-- A call that neither makes new edits nor replays any changes the history alone. -/
theorem run_of_nothing_replayed
    (noChange : call.isChange = false)
    (nothingReplayed : call.replayed? buffer = none) :
    call.run buffer = { buffer with history := (call.run buffer).history } := by
  cases call with
  | undo =>
      have done : buffer.history.commitAll.done = [] := by
        simpa [Call.replayed?] using nothingReplayed
      rw [Call.run, undo_of_done_nil done]
      rfl
  | redo =>
      have undone : buffer.history.undone = [] := by
        simpa [Call.replayed?] using nothingReplayed
      rw [Call.run, redo_of_undone_nil undone]
  | beginGroup description | commitGroup =>
      rfl
  | rollbackGroup =>
      cases nothingReplayed
  | insert | delete | replace | replaceAll =>
      cases noChange

/-- The edits that a call replays are what changes the text. -/
theorem Sound.changesBy_replayed
    (sound : buffer.Sound)
    (noChange : call.isChange = false) :
    buffer.ChangesBy (FitsAmong ((call.replayed? buffer).getD [])) (call.run buffer) := by
  cases replayed : call.replayed? buffer with
  | none =>
      rw [run_of_nothing_replayed noChange replayed]
      exact .history .nothing _
  | some edits =>
      have leads := sound.replayed_lead replayed
      obtain ⟨prepared, shape⟩ := run_of_replayed replayed
      rw [shape]
      exact .history
        (ChangesBy.trans (.history .nothing prepared)
          (changesBy_of_lead { buffer with history := prepared } leads (List.Subset.refl edits)))
        _

/-- All edits of a call fit. -/
theorem Sound.changesBy_run
    (sound : buffer.Sound)
    (call : Call) :
    buffer.ChangesBy Edit.Fits (call.run buffer) := by
  by_cases changes : call.isChange = true
  · exact (Call.performs_of_isChange changes buffer).changesBy
  · exact (sound.changesBy_replayed (by simpa using changes)).imp
      fun _ _ fitsAmong => fitsAmong.1

/-- The edits that a call replays are of the history, or take edits of it back. -/
theorem mem_edits_of_replayed
    {edits : List Edit}
    {edit : Edit}
    (replayed : call.replayed? buffer = some edits)
    (isIn : edit ∈ edits) :
    edit ∈ buffer.history.edits ∨ edit.inverse ∈ buffer.history.edits := by
  cases call with
  | rollbackGroup =>
      cases replayed
      exact .inr (History.mem_edits_of_abandoned (Edit.mem_takingBack.mp isIn))
  | undo =>
      obtain ⟨group, isNewest, rfl⟩ := Option.map_eq_some_iff.mp replayed
      right
      apply History.mem_edits_commitAll
      exact History.mem_edits.mpr
        (.inl ⟨group, List.mem_of_mem_head? isNewest, Edit.mem_takingBack.mp isIn⟩)
  | redo =>
      obtain ⟨group, isNext, rfl⟩ := Option.map_eq_some_iff.mp replayed
      left
      exact History.mem_edits.mpr
        (.inr (.inr ⟨group, List.mem_of_mem_head? isNext, isIn⟩))
  | _ =>
      cases replayed

/-- Undoing brings no edit into the history. -/
theorem mem_edits_undo
    {edit : Edit}
    (isIn : edit ∈ buffer.undo.2.history.edits) :
    edit ∈ buffer.history.edits := by
  apply History.mem_edits_commitAll
  cases done : buffer.history.commitAll.done with
  | nil =>
      rw [undo_of_done_nil done] at isIn
      exact isIn
  | cons group older =>
      obtain ⟨place, undone, shape, _, history⟩ := undo_of_done_cons done
      rw [shape, history, History.mem_edits] at isIn
      rw [History.mem_edits, done]
      rcases isIn with ⟨other, isDone, inOther⟩ | isPending | ⟨other, isUndone, inOther⟩
      · exact .inl ⟨other, List.mem_cons_of_mem group isDone, inOther⟩
      · exact .inr (.inl isPending)
      · rcases List.mem_cons.mp isUndone with rfl | wasUndone
        · exact .inl ⟨other, List.mem_cons_self, inOther⟩
        · exact .inr (.inr ⟨other, wasUndone, inOther⟩)

/-- Redoing brings no edit into the history. -/
theorem mem_edits_redo
    {edit : Edit}
    (isIn : edit ∈ buffer.redo.2.history.edits) :
    edit ∈ buffer.history.edits := by
  cases undone : buffer.history.undone with
  | nil =>
      rwa [redo_of_undone_nil undone] at isIn
  | cons group newer =>
      obtain ⟨place, redone, shape, _, history⟩ := redo_of_undone_cons undone
      rw [shape, history, History.mem_edits] at isIn
      rw [History.mem_edits, undone]
      rcases isIn with ⟨other, isDone, inOther⟩ | isPending | ⟨other, isUndone, inOther⟩
      · rcases List.mem_cons.mp isDone with rfl | wasDone
        · exact .inr (.inr ⟨other, List.mem_cons_self, inOther⟩)
        · exact .inl ⟨other, wasDone, inOther⟩
      · exact .inr (.inl isPending)
      · exact .inr (.inr ⟨other, List.mem_cons_of_mem group isUndone, inOther⟩)

/-- Rolling back brings no edit into the history. -/
theorem mem_edits_rollbackGroup
    {edit : Edit}
    (isIn : edit ∈ buffer.rollbackGroup.history.edits) :
    edit ∈ buffer.history.edits := by
  rw [rollbackGroup, revertAll_history] at isIn
  exact History.mem_edits_abandonGroup isIn

/-- A call that makes no new edits brings none into the history. -/
theorem mem_edits_run
    {edit : Edit}
    (noChange : call.isChange = false)
    (isIn : edit ∈ (call.run buffer).history.edits) :
    edit ∈ buffer.history.edits := by
  cases call with
  | beginGroup description =>
      exact History.edits_beginGroup buffer.history description ▸ isIn
  | commitGroup => exact History.mem_edits_commitGroup isIn
  | rollbackGroup => exact mem_edits_rollbackGroup isIn
  | undo => exact mem_edits_undo isIn
  | redo => exact mem_edits_redo isIn
  | insert | delete | replace | replaceAll => cases noChange

end Calls

end Buffer

end ChordEditor
