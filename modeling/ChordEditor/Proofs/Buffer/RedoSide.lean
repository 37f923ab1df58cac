import ChordEditor.Proofs.Buffer.Grouping

namespace ChordEditor

/-!
# Buffers that differ in what can be redone

What can be redone matters to nothing but a redo: of two buffers that have the same
text, the same undo side and the same open groups, all other calls answer the same and
make two such buffers again (`SameButRedo.run`, `SameButRedo.afterAll`).
-/

namespace History

/-- The history with other groups to redo. -/
def withUndone (history : History) (undone : List EditGroup) : History :=
  { history with undone := undone }

section WithUndone

/-! The groups to redo do not matter to any change of the history but a redo. -/

variable (history : History) (undone : List EditGroup)

@[simp]
theorem withUndone_done : (history.withUndone undone).done = history.done :=
  rfl

@[simp]
theorem withUndone_collecting : (history.withUndone undone).collecting = history.collecting :=
  rfl

@[simp]
theorem record_withUndone (edit : Edit) :
    (history.withUndone undone).record edit = history.record edit :=
  rfl

theorem pushUnlessEmpty_withUndone (group : EditGroup) :
    (history.withUndone undone).pushUnlessEmpty group =
      (history.pushUnlessEmpty group).withUndone undone := by
  unfold pushUnlessEmpty
  split <;> rfl

theorem commitAll_withUndone :
    (history.withUndone undone).commitAll = history.commitAll.withUndone undone := by
  obtain ⟨done, redoable, collecting⟩ := history
  cases collecting with
  | none =>
      rfl
  | some collected =>
      exact pushUnlessEmpty_withUndone { done, undone := redoable } undone collected.group

theorem commitGroup_withUndone :
    (history.withUndone undone).commitGroup = history.commitGroup.withUndone undone := by
  obtain ⟨done, redoable, collecting⟩ := history
  rcases collecting with _ | ⟨group, _ | ⟨size, outer⟩⟩
  · rfl
  · exact pushUnlessEmpty_withUndone { done, undone := redoable } undone group
  · rfl

theorem abandonGroup_withUndone :
    (history.withUndone undone).abandonGroup =
      (history.abandonGroup.1, history.abandonGroup.2.withUndone undone) := by
  obtain ⟨done, _, collecting⟩ := history
  rcases collecting with _ | ⟨group, _ | ⟨size, outer⟩⟩ <;> rfl

end WithUndone

end History

namespace Buffer

/-- The buffer after calls, one after the other. -/
def afterAll (buffer : Buffer) (calls : List Call) : Buffer :=
  calls.foldl (fun between call => call.run between) buffer

@[simp]
theorem afterAll_cons
    (buffer : Buffer)
    (call : Call)
    (calls : List Call) :
    buffer.afterAll (call :: calls) = (call.run buffer).afterAll calls :=
  rfl

@[simp]
theorem afterAll_append
    (buffer : Buffer)
    (first second : List Call) :
    buffer.afterAll (first ++ second) = (buffer.afterAll first).afterAll second :=
  List.foldl_append

/-- What a call answers. -/
inductive Answer where
  | accepted
  | removed (text : List Char)
  | counted (count : Nat)
  | goTo (place : Nat)
  | refused (error : EditError)
  deriving Repr, DecidableEq

namespace Answer

/-- The answer to a change of which only a part is told. -/
def ofResult (tell : α → Answer) : Except EditError α → Answer
  | .ok value => tell value
  | .error error => .refused error

end Answer

/-- What a call answers on a buffer. -/
def Call.answer (call : Call) (buffer : Buffer) : Answer :=
  match call with
  | .insert place piece =>
      .ofResult (fun _ => .accepted) (buffer.insert place piece)
  | .delete start stop =>
      .ofResult (fun result => .removed result.1) (buffer.delete start stop)
  | .replace start stop piece =>
      .ofResult (fun result => .removed result.1) (buffer.replace start stop piece)
  | .replaceAll needle replacement =>
      .ofResult (fun result => .counted result.1) (buffer.replaceAll needle replacement)
  | .beginGroup _ | .commitGroup | .rollbackGroup => .accepted
  | .undo => .ofResult .goTo buffer.undo.1
  | .redo => .ofResult .goTo buffer.redo.1

/-- What calls answer, one after the other. -/
def answers (buffer : Buffer) : List Call → List Answer
  | [] => []
  | call :: calls => call.answer buffer :: (call.run buffer).answers calls

/-- Texts, undo sides and open groups are the same. -/
structure SameButRedo (first second : Buffer) : Prop where
  text : first.text = second.text
  done : first.history.done = second.history.done
  collecting : first.history.collecting = second.history.collecting

/-- Two results are the same refusal, or are values that are related. -/
inductive Alike (related : α → α → Prop) : Except EditError α → Except EditError α → Prop where
  | error (error : EditError) :
      Alike related (.error error) (.error error)
  | ok
      {first second : α}
      (same : related first second) :
      Alike related (.ok first) (.ok second)

theorem Alike.bind
    {related : α → α → Prop}
    {relatedNext : β → β → Prop}
    {first second : Except EditError α}
    {firstNext secondNext : α → Except EditError β}
    (alike : Alike related first second)
    (next :
      ∀ one other,
        related one other → Alike relatedNext (firstNext one) (secondNext other)) :
    Alike relatedNext (first >>= firstNext) (second >>= secondNext) := by
  cases alike with
  | error error =>
      exact .error error
  | ok same =>
      exact next _ _ same

namespace SameButRedo

variable {first second : Buffer}

/-- Results beside which the buffers are the same but for what can be redone. -/
def Beside (first second : α × Buffer) : Prop :=
  first.1 = second.1 ∧ SameButRedo first.2 second.2

theorem history_eq (same : SameButRedo first second) :
    first.history = second.history.withUndone first.history.undone := by
  rw [History.withUndone, ← same.done, ← same.collecting]

theorem of_history_eq
    {undone : List EditGroup}
    (text : first.text = second.text)
    (history : first.history = second.history.withUndone undone) :
    SameButRedo first second :=
  ⟨text, by rw [history, History.withUndone_done],
    by rw [history, History.withUndone_collecting]⟩

theorem perform
    (same : SameButRedo first second)
    (edit : Edit) :
    SameButRedo (first.perform edit) (second.perform edit) := by
  have recorded : first.history.record edit = second.history.record edit := by
    rw [same.history_eq, History.record_withUndone]
  exact ⟨congrArg edit.applyTo same.text, congrArg History.done recorded,
    congrArg History.collecting recorded⟩

theorem insert
    (same : SameButRedo first second)
    (place : Nat)
    (piece : List Char) :
    Alike SameButRedo (first.insert place piece) (second.insert place piece) := by
  rw [insert_eq, insert_eq, length, length, same.text]
  split
  · exact .error _
  · split
    · exact .ok same
    · exact .ok (same.perform _)

theorem delete
    (same : SameButRedo first second)
    (start stop : Nat) :
    Alike Beside (first.delete start stop) (second.delete start stop) := by
  rw [delete_eq, delete_eq, length, length, slice, slice, same.text]
  split
  · exact .error _
  · split
    · exact .error _
    · split
      · exact .ok ⟨rfl, same⟩
      · exact .ok ⟨rfl, same.perform _⟩

theorem replace
    (same : SameButRedo first second)
    (start stop : Nat)
    (piece : List Char) :
    Alike Beside (first.replace start stop piece) (second.replace start stop piece) := by
  apply (same.delete start stop).bind
  rintro ⟨removed, shortened⟩ ⟨_, otherShortened⟩ ⟨rfl, sameShortened⟩
  apply (sameShortened.insert start piece).bind
  intro changed otherChanged sameChanged
  exact .ok ⟨rfl, sameChanged⟩

theorem replaceEach
    (same : SameButRedo first second)
    (length : Nat)
    (replacement : List Char)
    (places : List Nat) :
    Alike SameButRedo
      (first.replaceEach length replacement places)
      (second.replaceEach length replacement places) := by
  induction places generalizing first second with
  | nil =>
      exact .ok same
  | cons place places inductionHypothesis =>
      apply (same.replace place (place + length) replacement).bind
      rintro ⟨removed, changed⟩ ⟨_, otherChanged⟩ ⟨rfl, sameChanged⟩
      exact inductionHypothesis sameChanged

theorem replaceAll
    (same : SameButRedo first second)
    (needle replacement : List Char) :
    Alike Beside (first.replaceAll needle replacement) (second.replaceAll needle replacement) := by
  unfold Buffer.replaceAll
  split
  · exact .ok ⟨rfl, same⟩
  · rw [same.text]
    apply (same.replaceEach _ _ _).bind
    intro changed otherChanged sameChanged
    exact .ok ⟨rfl, sameChanged⟩

theorem reverted_text
    {first second : Buffer}
    (same : first.text = second.text)
    (edits : List Edit) :
    (first.revertAll edits).text = (second.revertAll edits).text := by
  rw [revertAll_eq_reapplyAll, revertAll_eq_reapplyAll]
  exact reapplyAll_text_congr same _

theorem beginGroup
    (same : SameButRedo first second)
    (description : String) :
    SameButRedo (first.beginGroup description) (second.beginGroup description) := by
  refine ⟨same.text, ?_, ?_⟩
  · simp only [Buffer.beginGroup, History.beginGroup_eq, same.done]
  · simp only [Buffer.beginGroup, History.beginGroup_eq, History.opened, same.collecting]

theorem commitGroup (same : SameButRedo first second) :
    SameButRedo first.commitGroup second.commitGroup := by
  have committed := congrArg History.commitGroup same.history_eq
  rw [History.commitGroup_withUndone] at committed
  exact of_history_eq same.text committed

theorem rollbackGroup (same : SameButRedo first second) :
    SameButRedo first.rollbackGroup second.rollbackGroup := by
  have abandoned := congrArg History.abandonGroup same.history_eq
  rw [History.abandonGroup_withUndone] at abandoned
  unfold Buffer.rollbackGroup
  rw [abandoned]
  dsimp only
  exact
    { text := by
        apply reverted_text
        exact same.text
      done := by simp only [revertAll_history, History.withUndone_done]
      collecting := by simp only [revertAll_history, History.withUndone_collecting] }

theorem closed (same : SameButRedo first second) :
    SameButRedo first.closed second.closed := by
  have closed := congrArg History.commitAll same.history_eq
  rw [History.commitAll_withUndone] at closed
  exact of_history_eq same.text closed

theorem undo (same : SameButRedo first second) :
    first.undo.1 = second.undo.1 ∧ SameButRedo first.undo.2 second.undo.2 := by
  have sameClosed := same.closed
  have done : first.history.commitAll.done = second.history.commitAll.done :=
    sameClosed.done
  unfold Buffer.undo
  simp only [done]
  cases second.history.commitAll.done with
  | nil =>
      exact ⟨rfl, sameClosed⟩
  | cons group older =>
      have text := reverted_text sameClosed.text group.edits
      unfold Buffer.closed at text
      refine ⟨?_, text, rfl, ?_⟩
      · simp only [anchorOf, clamp, text]
      · simp only [revertAll_history, commitAll_collecting]

/-- Short of a redo, a call answers the same and does the same to both buffers. -/
theorem run
    (same : SameButRedo first second)
    {call : Call}
    (notRedo : call ≠ .redo) :
    call.answer first = call.answer second ∧
      SameButRedo (call.run first) (call.run second) := by
  cases call with
  | insert place piece =>
      have alike := same.insert place piece
      simp only [Call.answer, Call.run]
      generalize first.insert place piece = result, second.insert place piece = other at alike
      cases alike with
      | error _ => exact ⟨rfl, same⟩
      | ok later => exact ⟨rfl, later⟩
  | delete start stop =>
      have alike := same.delete start stop
      simp only [Call.answer, Call.run]
      generalize first.delete start stop = result, second.delete start stop = other at alike
      cases alike with
      | error _ => exact ⟨rfl, same⟩
      | ok later => exact ⟨congrArg Answer.removed later.1, later.2⟩
  | replace start stop piece =>
      have alike := same.replace start stop piece
      simp only [Call.answer, Call.run]
      generalize first.replace start stop piece = result,
        second.replace start stop piece = other at alike
      cases alike with
      | error _ => exact ⟨rfl, same⟩
      | ok later => exact ⟨congrArg Answer.removed later.1, later.2⟩
  | replaceAll needle replacement =>
      have alike := same.replaceAll needle replacement
      simp only [Call.answer, Call.run]
      generalize first.replaceAll needle replacement = result,
        second.replaceAll needle replacement = other at alike
      cases alike with
      | error _ => exact ⟨rfl, same⟩
      | ok later => exact ⟨congrArg Answer.counted later.1, later.2⟩
  | beginGroup description =>
      exact ⟨rfl, same.beginGroup description⟩
  | commitGroup =>
      exact ⟨rfl, same.commitGroup⟩
  | rollbackGroup =>
      exact ⟨rfl, same.rollbackGroup⟩
  | undo =>
      exact ⟨congrArg (Answer.ofResult .goTo) same.undo.1, same.undo.2⟩
  | redo =>
      exact absurd rfl notRedo

/-- Short of a redo, calls answer the same and do the same to both buffers. -/
theorem afterAll
    (same : SameButRedo first second)
    {calls : List Call}
    (noRedo : .redo ∉ calls) :
    first.answers calls = second.answers calls ∧
      SameButRedo (first.afterAll calls) (second.afterAll calls) := by
  induction calls generalizing first second with
  | nil =>
      exact ⟨rfl, same⟩
  | cons call calls inductionHypothesis =>
      obtain ⟨notRedo, laterNoRedo⟩ := not_or.mp (mt List.mem_cons.mpr noRedo)
      obtain ⟨answer, sameAfter⟩ := same.run (Ne.symm notRedo)
      obtain ⟨later, sameLater⟩ := inductionHypothesis sameAfter laterNoRedo
      exact ⟨by rw [answers, answers, answer, later], sameLater⟩

end SameButRedo

end Buffer

end ChordEditor
