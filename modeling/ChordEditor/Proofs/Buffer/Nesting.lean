import ChordEditor.Proofs.Buffer.RedoSide

namespace ChordEditor

/-!
# Blocks of calls that are rolled back

Calls are well nested when each group that they begin is committed or rolled back
among them.  In a group that is open they only add edits to it (`WellNested.collects`),
so a rollback after them restores what there was before the group
(`rollbackGroup_restores`): all but the redo side, the version and the lines touched is
as if the block had never run.
-/

namespace OpenGroup

/-- The group with more edits behind those it has. -/
def extend (collected : OpenGroup) (edits : List Edit) : OpenGroup :=
  { collected with
    group := { collected.group with edits := collected.group.edits ++ edits } }

@[simp]
theorem extend_nil (collected : OpenGroup) : collected.extend [] = collected := by
  simp [extend]

@[simp]
theorem extend_extend
    (collected : OpenGroup)
    (first second : List Edit) :
    (collected.extend first).extend second = collected.extend (first ++ second) := by
  simp [extend]

end OpenGroup

namespace History

/-- What two steps keep on the redo side, or make empty, they keep or make empty together. -/
theorem undone_trans
    {first second third : History}
    (earlier : second.undone = first.undone ∨ second.undone = [])
    (later : third.undone = second.undone ∨ third.undone = []) :
    third.undone = first.undone ∨ third.undone = [] := by
  rcases later with same | nothing
  · rwa [same]
  · exact .inr nothing

/-- Giving up a group takes back the edits since it was begun, and nothing else. -/
theorem abandonGroup_of_opened
    {history later : History}
    {description : String}
    {edits : List Edit}
    (collecting : later.collecting = some ((history.opened description).extend edits)) :
    later.abandonGroup = (edits, { later with collecting := history.collecting }) := by
  unfold opened at collecting
  cases before : history.collecting with
  | none =>
      simp [before] at collecting
      simp [History.abandonGroup, collecting, OpenGroup.extend, EditGroup.describedAs]
  | some collected =>
      simp [before] at collecting
      simp [History.abandonGroup, collecting, OpenGroup.extend, EditGroup.size]

/-- Committing a nested group leaves its edits to the group around it. -/
theorem commitGroup_of_opened
    {history later : History}
    {description : String}
    {collected : OpenGroup}
    {edits : List Edit}
    (around : history.collecting = some collected)
    (collecting : later.collecting = some ((history.opened description).extend edits)) :
    later.commitGroup = { later with collecting := some (collected.extend edits) } := by
  simp [opened, around] at collecting
  simp [History.commitGroup, collecting, OpenGroup.extend]

end History

namespace Buffer

/-- Calls that make new edits, and groups of such calls that are ended among them. -/
inductive WellNested : List Call → Prop where
  | nil :
      WellNested []
  | change
      {call : Call}
      {rest : List Call}
      (changes : call.isChange = true)
      (after : WellNested rest) :
      WellNested (call :: rest)
  | committed
      {inner rest : List Call}
      (description : String)
      (within : WellNested inner)
      (after : WellNested rest) :
      WellNested (.beginGroup description :: (inner ++ .commitGroup :: rest))
  | rolledBack
      {inner rest : List Call}
      (description : String)
      (within : WellNested inner)
      (after : WellNested rest) :
      WellNested (.beginGroup description :: (inner ++ .rollbackGroup :: rest))

/--
Since a buffer in which `opened` was the open group, edits have been added to that group
that lead to the present text; there may be less to redo, but nothing else has changed.
-/
structure Collects
    (opened : OpenGroup)
    (before : Buffer)
    (edits : List Edit)
    (after : Buffer) : Prop where
  collecting : after.history.collecting = some (opened.extend edits)
  leads : Edit.Lead edits before.text after.text
  done : after.history.done = before.history.done
  undone : after.history.undone = before.history.undone ∨ after.history.undone = []

namespace Collects

variable {opened : OpenGroup} {before between after : Buffer} {edits : List Edit}

/-- In a group that has just been begun nothing is collected yet. -/
theorem begun
    (buffer : Buffer)
    (description : String) :
    Collects (buffer.history.opened description) (buffer.beginGroup description) []
      (buffer.beginGroup description) := by
  refine ⟨?_, rfl, rfl, .inl rfl⟩
  rw [OpenGroup.extend_nil, beginGroup, History.beginGroup_eq]

theorem performs
    (collects : Collects opened before edits between)
    (performs : Performs between after) :
    ∃ more, Collects opened before more after := by
  induction performs with
  | nothing =>
      exact ⟨edits, collects⟩
  | edit _ edit fits inductionHypothesis =>
      obtain ⟨more, collected⟩ := inductionHypothesis
      refine ⟨more ++ [edit], ?_, Edit.lead_concat collected.leads fits, ?_, .inr ?_⟩
      all_goals
        simp only [perform, applyEdit, History.record, collected.collecting]
      · simp [EditGroup.add, OpenGroup.extend]
      · exact collected.done

/-- A rollback restores what there was before the group was begun. -/
theorem rollbackGroup
    {description : String}
    (collects :
      Collects (before.history.opened description) (before.beginGroup description) edits after) :
    SameButRedo after.rollbackGroup before ∧
      (after.rollbackGroup.history.undone = before.history.undone ∨
        after.rollbackGroup.history.undone = []) := by
  have abandoned := History.abandonGroup_of_opened collects.collecting
  have sameSides := collects.done
  have undone := collects.undone
  rw [beginGroup, History.beginGroup_eq] at sameSides undone
  have history :
      after.rollbackGroup.history =
        { after.history with collecting := before.history.collecting } := by
    simp only [Buffer.rollbackGroup, abandoned, revertAll_history]
  constructor
  · constructor
    · simp only [Buffer.rollbackGroup, abandoned]
      exact revertAll_text collects.leads
    · rw [history]
      exact sameSides
    · rw [history]
  · rw [history]
    exact undone

theorem commitGroup
    {description : String}
    {more : List Edit}
    (collects : Collects opened before edits between)
    (nested :
      Collects (between.history.opened description) (between.beginGroup description) more after) :
    Collects opened before (edits ++ more) after.commitGroup := by
  have committed := History.commitGroup_of_opened collects.collecting nested.collecting
  have sameDone := nested.done
  have undone := nested.undone
  rw [beginGroup, History.beginGroup_eq] at sameDone undone
  constructor
  all_goals
    simp only [Buffer.commitGroup, committed]
  · simp
  · exact Edit.lead_append.mpr ⟨between.text, collects.leads, nested.leads⟩
  · exact sameDone.trans collects.done
  · exact History.undone_trans collects.undone undone

theorem restored
    (collects : Collects opened before edits between)
    (same : SameButRedo after between)
    (undone :
      after.history.undone = between.history.undone ∨ after.history.undone = []) :
    Collects opened before edits after := by
  constructor
  · rw [same.collecting, collects.collecting]
  · rw [same.text]
    exact collects.leads
  · rw [same.done, collects.done]
  · exact History.undone_trans collects.undone undone

end Collects

/-- Well-nested calls in an open group only add edits to it. -/
theorem WellNested.collects
    {calls : List Call}
    (nested : WellNested calls)
    {opened : OpenGroup}
    {before between : Buffer}
    {edits : List Edit}
    (collects : Collects opened before edits between) :
    ∃ more, Collects opened before more (between.afterAll calls) := by
  induction nested generalizing opened before between edits with
  | nil =>
      exact ⟨edits, collects⟩
  | @change call rest changes _ afterwards =>
      obtain ⟨more, collected⟩ := collects.performs (call.performs_of_isChange changes between)
      exact afterwards collected
  | committed description _ _ inside afterwards =>
      obtain ⟨more, within⟩ := inside (.begun between description)
      rw [afterAll_cons, afterAll_append, afterAll_cons]
      exact afterwards (collects.commitGroup within)
  | rolledBack description _ _ inside afterwards =>
      obtain ⟨more, within⟩ := inside (.begun between description)
      obtain ⟨same, undone⟩ := within.rollbackGroup
      rw [afterAll_cons, afterAll_append, afterAll_cons]
      exact afterwards (collects.restored same undone)

/--
Rolling back a group restores the text, the undo side and the edits collected around it,
whatever well-nested calls were made in the group; and short of a redo all later calls
answer and do what they would have done without it.
-/
theorem rollbackGroup_restores
    (buffer : Buffer)
    (description : String)
    {calls : List Call}
    (nested : WellNested calls) :
    let restored := ((buffer.beginGroup description).afterAll calls).rollbackGroup
    SameButRedo restored buffer ∧
      (restored.history.undone = buffer.history.undone ∨ restored.history.undone = []) ∧
      ∀ later,
        .redo ∉ later →
          restored.answers later = buffer.answers later ∧
            SameButRedo (restored.afterAll later) (buffer.afterAll later) := by
  obtain ⟨edits, collects⟩ := nested.collects (.begun buffer description)
  obtain ⟨same, undone⟩ := collects.rollbackGroup
  exact ⟨same, undone, fun later noRedo => same.afterAll noRedo⟩

/--
A group inside one that has edits: it inserts, is refused a deletion, rolls back an inner
group and commits another one, and leaves nothing of it when it is rolled back.
-/
theorem rollbackGroup_restores_outer_group :
    ∃ buffer calls,
      ReachedFrom ['a', 'b'] buffer ∧
        WellNested calls ∧
        ((buffer.beginGroup "inner").afterAll calls).text = ['y', 'z'] ∧
        SameButRedo ((buffer.beginGroup "inner").afterAll calls).rollbackGroup buffer ∧
        (((buffer.beginGroup "inner").afterAll calls).rollbackGroup.afterAll
          [.commitGroup, .undo]).text = ['a', 'b'] := by
  have reached : ReachedFrom ['a', 'b'] _ :=
    (ReachedFrom.start.call (.beginGroup "outer")).call (.insert 2 ['x'])
  have nested :
      WellNested
        (.insert 0 ['y'] :: .delete 7 9 ::
          .beginGroup "dropped" :: ([.delete 0 4] ++ .rollbackGroup ::
            .beginGroup "kept" :: ([.replace 1 4 ['z']] ++ .commitGroup :: []))) :=
    .change rfl (.change rfl (.rolledBack "dropped" (.change rfl .nil)
      (.committed "kept" (.change rfl .nil) .nil)))
  obtain ⟨same, _, later⟩ := rollbackGroup_restores _ "inner" nested
  have undone := (later [.commitGroup, .undo] (by simp)).2.text
  exact ⟨_, _, reached, nested, by decide, same, undone.trans (by decide)⟩

end Buffer

end ChordEditor
