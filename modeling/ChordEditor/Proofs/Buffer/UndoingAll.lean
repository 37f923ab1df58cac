import ChordEditor.Proofs.Buffer.Chronicle

namespace ChordEditor

/-!
# Undoing everything

Along every run the chronicle agrees with the history (`ToldBy.agrees`).  So undoing
until it is refused ends with the text before the oldest group that is retained, and
that is the text the run began with as long as no group was dropped
(`undoing_all_gives_oldest`).
-/

namespace Buffer

theorem revertAll_text_eq
    (buffer : Buffer)
    (edits : List Edit) :
    (buffer.revertAll edits).text = Edit.takeBack edits buffer.text := by
  induction edits with
  | nil =>
      rfl
  | cons edit edits inductionHypothesis =>
      exact congrArg edit.inverse.applyTo inductionHypothesis

theorem Sound.agrees_rollbackGroup
    {buffer : Buffer}
    {chronicle : Chronicle}
    {start : List Char}
    (sound : buffer.Sound)
    (agrees : chronicle.Agrees start buffer.history buffer.text) :
    chronicle.Agrees start buffer.rollbackGroup.history buffer.rollbackGroup.text := by
  have history : buffer.rollbackGroup.history = buffer.history.abandonGroup.2 := by
    rw [Buffer.rollbackGroup, revertAll_history]
  have text :
      buffer.rollbackGroup.text = Edit.takeBack buffer.history.abandonGroup.1 buffer.text :=
    revertAll_text_eq _ _
  have pending := buffer.history.abandonGroup_pending
  obtain ⟨sameDone, sameUndone⟩ := buffer.history.abandonGroup_sides
  have same :
      Edit.takeBack buffer.history.abandonGroup.2.pending buffer.rollbackGroup.text =
        Edit.takeBack buffer.history.pending buffer.text := by
    rw [text, ← Edit.takeBack_append, ← pending]
  rw [history]
  constructor
  · intro someKept
    rw [same]
    apply agrees.base
    rw [pending]
    exact List.append_ne_nil_of_left_ne_nil someKept _
  · rw [sameDone, same]
    exact agrees.done
  · rw [sameUndone, agrees.undone, text]
    cases given : buffer.history.abandonGroup.1 with
    | nil =>
        rfl
    | cons edit edits =>
        rw [sound.nothing_undone (by simp [pending, given])]
        rfl
  · rw [same]
    exact agrees.oldest
  · rw [sameDone, sameUndone]
    exact agrees.depth

theorem Sound.agrees_undo
    {buffer : Buffer}
    {chronicle : Chronicle}
    {start : List Char}
    (sound : buffer.Sound)
    (agrees : chronicle.Agrees start buffer.history buffer.text) :
    (chronicle.undo buffer.history).Agrees start buffer.undo.2.history buffer.undo.2.text := by
  have closed := agrees.close sound.nothing_undone
  have nothingPending : buffer.history.commitAll.pending = [] := by
    rw [History.pending, commitAll_collecting]
  have told := closed.done
  rw [nothingPending, Edit.takeBack_nil] at told
  cases done : buffer.history.commitAll.done with
  | nil =>
      rw [done] at told
      rw [undo_of_done_nil done, Chronicle.undo, told]
      exact closed
  | cons group older =>
      obtain ⟨place, undone, stepped, text, history⟩ := undo_of_done_cons done
      have earlier : undone.text = Edit.takeBack group.edits buffer.text := by
        rw [text, revertAll_text_eq]
        rfl
      obtain ⟨_, _, _, sameDone, groupLeads, _⟩ := sound.undo_ok stepped
      rw [done] at sameDone
      cases sameDone
      rw [done, History.textsBefore, ← earlier] at told
      have oldest := closed.oldest
      have depth := closed.depth
      rw [Chronicle.oldest, told, List.getLast?_cons] at oldest
      rw [done, List.length_cons] at depth
      rw [stepped, Chronicle.undo, told, history]
      apply Chronicle.Agrees.of_nothing_pending
      · exact nothingPending
      · rfl
      · rw [History.textsOn, groupLeads.replay_eq, closed.undone]
      · exact oldest
      · simp only [List.length_cons]
        omega

theorem Sound.agrees_redo
    {buffer : Buffer}
    {chronicle : Chronicle}
    {start : List Char}
    (sound : buffer.Sound)
    (agrees : chronicle.Agrees start buffer.history buffer.text) :
    chronicle.redo.Agrees start buffer.redo.2.history buffer.redo.2.text := by
  have told := agrees.undone
  cases undone : buffer.history.undone with
  | nil =>
      rw [undone] at told
      rw [redo_of_undone_nil undone, Chronicle.redo, told]
      exact agrees
  | cons group newer =>
      obtain ⟨place, redone, stepped, text, history⟩ := redo_of_undone_cons undone
      have nothingPending := sound.nothing_pending (by simp [undone])
      obtain ⟨_, _, accounts⟩ := sound
      have undoneLead := accounts.undone_lead
      rw [undone] at undoneLead
      obtain ⟨later, groupLeads, _⟩ := undoneLead
      have textLater : redone.text = later := by
        rw [text]
        exact reapplyAll_text groupLeads
      have done := agrees.done
      have oldest := agrees.oldest
      have depth := agrees.depth
      rw [nothingPending, Edit.takeBack_nil] at done oldest
      rw [undone, History.textsOn, groupLeads.replay_eq] at told
      rw [undone, List.length_cons] at depth
      rw [stepped, Chronicle.redo, told, textLater, history]
      apply Chronicle.Agrees.of_nothing_pending
      · exact nothingPending
      · rw [History.textsBefore, groupLeads.takeBack_eq, done]
      · rfl
      · intro neverFull
        rw [Chronicle.oldest, List.getLast?_cons, Option.getD_some]
        exact oldest neverFull
      · simp only [List.length_cons]
        omega

/-- The chronicle of a run agrees with the buffer that it makes. -/
theorem ToldBy.agrees
    {text : List Char}
    {buffer : Buffer}
    {chronicle : Chronicle}
    (told : ToldBy text buffer chronicle) :
    chronicle.Agrees text buffer.history buffer.text := by
  induction told with
  | start =>
      exact .of_nothing_pending rfl rfl rfl (fun _ => rfl) (Nat.zero_le _)
  | edit _ edit fits inductionHypothesis =>
      exact inductionHypothesis.record fits
  | @beginGroup buffer _ _ description inductionHypothesis =>
      apply inductionHypothesis.congr
      · rw [Buffer.beginGroup, History.beginGroup_eq]
      · rw [Buffer.beginGroup, History.beginGroup_eq]
      · exact History.beginGroup_pending buffer.history description
  | @commitGroup buffer chronicle earlier inductionHypothesis =>
      rw [Chronicle.commitGroup, Buffer.commitGroup]
      split
      · rename_i isOnly
        rw [History.commitGroup_eq_commitAll isOnly]
        exact inductionHypothesis.close earlier.sound.nothing_undone
      · rename_i notOnly
        obtain ⟨done, undone, pending⟩ := History.commitGroup_sides notOnly
        exact inductionHypothesis.congr done undone pending
  | rollbackGroup earlier inductionHypothesis =>
      exact earlier.sound.agrees_rollbackGroup inductionHypothesis
  | undo earlier inductionHypothesis =>
      exact earlier.sound.agrees_undo inductionHypothesis
  | redo earlier inductionHypothesis =>
      exact earlier.sound.agrees_redo inductionHypothesis

/-- A walk ends with the last of the texts that it meets. -/
theorem walk_last
    {step : Buffer → Except EditError Nat × Buffer}
    {count : Nat}
    {buffer last : Buffer}
    {texts : List (List Char)}
    (walked : walk step count buffer = some (texts, last)) :
    texts.getLast? = some last.text := by
  induction count generalizing buffer texts with
  | zero =>
      cases walked
      rfl
  | succ count inductionHypothesis =>
      obtain ⟨_, next, later, _, rest, rfl⟩ := walk_succ.mp walked
      rw [List.getLast?_cons, inductionHypothesis rest, Option.getD_some]

/-- Undoing as often as there are groups meets the texts before all of them, and no more. -/
theorem walk_undo_all
    {buffer : Buffer}
    {groups : List EditGroup}
    (done : buffer.history.commitAll.done = groups) :
    ∃ last,
      walk undo groups.length buffer =
          some (buffer.text :: History.textsBefore groups buffer.text, last) ∧
        last.undo.1 = .error .nothingToUndo := by
  induction groups generalizing buffer with
  | nil =>
      refine ⟨buffer, rfl, ?_⟩
      rw [undo_of_done_nil done]
  | cons group older inductionHypothesis =>
      obtain ⟨place, undone, stepped, text, history⟩ := undo_of_done_cons done
      have earlier : undone.text = Edit.takeBack group.edits buffer.text := by
        rw [text, revertAll_text_eq]
        rfl
      have idle : undone.history.collecting = none := by
        rw [history]
        exact commitAll_collecting _
      have olderDone : undone.history.commitAll.done = older := by
        rw [commitAll_of_idle idle, history]
      obtain ⟨last, walked, refused⟩ := inductionHypothesis olderDone
      refine ⟨last, ?_, refused⟩
      rw [List.length_cons, walk_succ]
      exact ⟨place, undone, _, stepped, walked, by rw [earlier, History.textsBefore]⟩

/--
The two sides together hold at most as many groups as may be undone; and undoing until
there is nothing left meets the texts that the groups were made on, down to the text
before the oldest one that is retained: the text at the start, if no group was ever put
on an undo side that was full.
-/
theorem undoing_all_gives_oldest
    {text : List Char}
    {buffer : Buffer}
    (reached : ReachedFrom text buffer) :
    buffer.history.done.length + buffer.history.undone.length ≤ maxUndoDepth ∧
      (∃ chronicle, ToldBy text buffer chronicle) ∧
      ∀ chronicle,
        ToldBy text buffer chronicle →
          let closed := chronicle.close buffer.history
          ∃ last,
            walk undo closed.done.length buffer = some (buffer.text :: closed.done, last) ∧
              last.undo.1 = .error .nothingToUndo ∧
              last.text = closed.oldest buffer.text ∧
              (closed.overflowed = false → last.text = text) := by
  obtain ⟨ofRun, toldOfRun⟩ := reached.told
  refine ⟨toldOfRun.agrees.depth, ⟨ofRun, toldOfRun⟩, ?_⟩
  intro chronicle told closed
  have agrees : closed.Agrees text buffer.history.commitAll buffer.text :=
    told.agrees.close told.sound.nothing_undone
  have nothingPending : buffer.history.commitAll.pending = [] := by
    rw [History.pending, commitAll_collecting]
  have done := agrees.done
  have oldest := agrees.oldest
  rw [nothingPending, Edit.takeBack_nil] at done oldest
  obtain ⟨last, walked, refused⟩ := @walk_undo_all buffer _ rfl
  rw [← done] at walked
  have lastText := walk_last walked
  rw [List.getLast?_cons, Option.some.injEq] at lastText
  refine ⟨last, ?_, refused, lastText.symm, fun neverFull => ?_⟩
  · rw [done, History.length_textsBefore, ← done]
    exact walked
  · rw [← lastText]
    exact oldest neverFull

/-- Undoing a group that is still open, and then the insertion before it. -/
theorem undoing_all_gives_text_at_start :
    ∃ buffer last,
      ReachedFrom ['a'] buffer ∧
        buffer.text = ['x', 'b'] ∧
        walk undo 2 buffer = some ([['x', 'b'], ['a', 'b'], ['a']], last) ∧
        last.undo.1 = .error .nothingToUndo ∧
        last.text = ['a'] := by
  have reached :=
    ((@ReachedFrom.start ['a']).call (.insert 1 ['b'])).call (.beginGroup "change")
      |>.call (.replace 0 1 ['x'])
  have told :=
    (((@ToldBy.start ['a']).edit (.insert 1 ['b']) (Nat.le_refl 1)).beginGroup "change").edit
      (.delete 0 ['a']) ⟨Nat.zero_le _, ['b'], rfl⟩
      |>.edit (.insert 0 ['x']) (Nat.zero_le _)
  obtain ⟨last, walked, refused, _, atStart⟩ := (undoing_all_gives_oldest reached).2.2 _ told
  exact ⟨_, last, reached, rfl, walked, refused, atStart rfl⟩

end Buffer

end ChordEditor
