import ChordEditor.Proofs.Buffer.Grouping

namespace ChordEditor

/-!
# Chronicles

The groups of a history do not tell on which texts they were made.  A chronicle is kept
beside a run and tells it: for each group the text before its first edit, and whether a
group ever went to an undo side that was full.

A chronicle agrees with a history (`Chronicle.Agrees`) when its texts are those that
undoing and redoing the groups goes through.  New edits and closed groups keep it so.
-/

namespace Edit

/-- The text before edits that led to a text. -/
def takeBack (edits : List Edit) (text : List Char) : List Char :=
  edits.foldr (fun edit later => edit.inverse.applyTo later) text

/-- The text after edits made on a text. -/
def replay (edits : List Edit) (text : List Char) : List Char :=
  edits.foldl (fun earlier edit => edit.applyTo earlier) text

@[simp]
theorem takeBack_nil (text : List Char) : takeBack [] text = text :=
  rfl

theorem takeBack_append
    (first second : List Edit)
    (text : List Char) :
    takeBack (first ++ second) text = takeBack first (takeBack second text) :=
  List.foldr_append

theorem takeBack_concat
    {edits : List Edit}
    {edit : Edit}
    {text : List Char}
    (fits : edit.Fits text) :
    takeBack (edits ++ [edit]) (edit.applyTo text) = takeBack edits text := by
  rw [takeBack_append]
  exact congrArg (takeBack edits) fits.applyTo_inverse

theorem Lead.takeBack_eq
    {edits : List Edit}
    {before after : List Char}
    (leads : Lead edits before after) :
    takeBack edits after = before := by
  induction edits generalizing before with
  | nil =>
      exact leads.symm
  | cons edit edits inductionHypothesis =>
      obtain ⟨fits, rest⟩ := leads
      show edit.inverse.applyTo (takeBack edits after) = before
      rw [inductionHypothesis rest, fits.applyTo_inverse]

theorem Lead.replay_eq
    {edits : List Edit}
    {before after : List Char}
    (leads : Lead edits before after) :
    replay edits before = after := by
  induction edits generalizing before with
  | nil =>
      exact leads
  | cons edit edits inductionHypothesis =>
      exact inductionHypothesis leads.2

end Edit

namespace History

/-- The texts met when groups that led to a text are taken back, one after the other. -/
def textsBefore : List EditGroup → List Char → List (List Char)
  | [], _ => []
  | group :: older, text =>
      Edit.takeBack group.edits text :: textsBefore older (Edit.takeBack group.edits text)

/-- The texts that groups are made on when they are replayed, one after the other. -/
def textsOn : List EditGroup → List Char → List (List Char)
  | [], _ => []
  | group :: newer, text => text :: textsOn newer (Edit.replay group.edits text)

@[simp]
theorem length_textsBefore
    (groups : List EditGroup)
    (text : List Char) :
    (textsBefore groups text).length = groups.length := by
  induction groups generalizing text with
  | nil =>
      rfl
  | cons group older inductionHypothesis =>
      simp [textsBefore, inductionHypothesis]

theorem textsBefore_dropLast
    (groups : List EditGroup)
    (text : List Char) :
    textsBefore groups.dropLast text = (textsBefore groups text).dropLast := by
  induction groups generalizing text with
  | nil =>
      rfl
  | cons group older inductionHypothesis =>
      cases older with
      | nil =>
          rfl
      | cons next more =>
          simp [textsBefore] at inductionHypothesis ⊢
          exact inductionHypothesis _

theorem commitAll_of_nothing_pending
    {history : History}
    (nothingPending : history.pending = []) :
    history.commitAll = { history with collecting := none } := by
  obtain ⟨done, undone, collecting⟩ := history
  cases collecting with
  | none =>
      rfl
  | some collected =>
      have noEdits : collected.group.edits = [] := nothingPending
      simp [History.commitAll, pushUnlessEmpty, EditGroup.isEmpty, noEdits]

theorem commitAll_of_pending
    {history : History}
    (somePending : history.pending ≠ []) :
    ∃ group,
      group.edits = history.pending ∧
        history.commitAll = { history with collecting := none }.push group := by
  obtain ⟨done, undone, collecting⟩ := history
  cases collecting with
  | none =>
      exact absurd rfl somePending
  | some collected =>
      have someEdits : collected.group.edits ≠ [] := somePending
      exact ⟨collected.group, rfl,
        by simp [History.commitAll, pushUnlessEmpty, EditGroup.isEmpty, someEdits]⟩

theorem commitGroup_eq_commitAll
    {history : History}
    (isOnly : history.groupDepth = 1) :
    history.commitGroup = history.commitAll := by
  obtain ⟨done, undone, collecting⟩ := history
  rcases collecting with _ | ⟨group, _ | ⟨size, outer⟩⟩
  · simp [groupDepth] at isOnly
  · rfl
  · simp [groupDepth] at isOnly

theorem commitGroup_sides
    {history : History}
    (notOnly : history.groupDepth ≠ 1) :
    history.commitGroup.done = history.done ∧
      history.commitGroup.undone = history.undone ∧
      history.commitGroup.pending = history.pending := by
  obtain ⟨done, undone, collecting⟩ := history
  rcases collecting with _ | ⟨group, _ | ⟨size, outer⟩⟩
  · exact ⟨rfl, rfl, rfl⟩
  · exact absurd rfl notOnly
  · exact ⟨rfl, rfl, rfl⟩

/-- The edits given up are the last of those pending, and the others stay pending. -/
theorem abandonGroup_pending (history : History) :
    history.pending = history.abandonGroup.2.pending ++ history.abandonGroup.1 := by
  obtain ⟨done, undone, collecting⟩ := history
  rcases collecting with _ | ⟨group, _ | ⟨size, outer⟩⟩
  · rfl
  · rfl
  · exact (List.take_append_drop size group.edits).symm

theorem abandonGroup_sides (history : History) :
    history.abandonGroup.2.done = history.done ∧
      history.abandonGroup.2.undone = history.undone := by
  obtain ⟨done, undone, collecting⟩ := history
  rcases collecting with _ | ⟨group, _ | ⟨size, outer⟩⟩ <;> exact ⟨rfl, rfl⟩

end History

/-- The texts that the groups of a history were made on. -/
structure Chronicle where
  /-- The text before each group that can be undone, the newest first. -/
  done : List (List Char) := []
  /-- The text before each group that can be redone, the next one first. -/
  undone : List (List Char) := []
  /-- The text before the edits that are pending, if there are any. -/
  base : List Char := []
  /-- Whether a group was ever put on an undo side that was full. -/
  overflowed : Bool := false

namespace Chronicle

/-- A group that was made on a text goes to the undo side. -/
def push (chronicle : Chronicle) (history : History) (before : List Char) : Chronicle :=
  if history.done.length ≥ maxUndoDepth then
    { chronicle with done := before :: chronicle.done.dropLast, overflowed := true }
  else
    { chronicle with done := before :: chronicle.done }

/-- A new edit is made on a text. -/
def record (chronicle : Chronicle) (history : History) (text : List Char) : Chronicle :=
  let chronicle := { chronicle with undone := [] }
  if history.inGroup then
    if history.pending = [] then { chronicle with base := text } else chronicle
  else
    chronicle.push history text

/-- In an open group only the first edit is told with the text that it is made on. -/
theorem record_of_inGroup
    (chronicle : Chronicle)
    {history : History}
    (text : List Char)
    (inGroup : history.inGroup = true) :
    chronicle.record history text =
      { chronicle with
        undone := []
        base := if history.pending = [] then text else chronicle.base } := by
  simp only [record, inGroup, if_true]
  split <;> rfl

/-- All groups are closed; they go to the undo side as one if there are edits in them. -/
def close (chronicle : Chronicle) (history : History) : Chronicle :=
  if history.pending = [] then chronicle else chronicle.push history chronicle.base

/-- The innermost group is closed. -/
def commitGroup (chronicle : Chronicle) (history : History) : Chronicle :=
  if history.groupDepth = 1 then chronicle.close history else chronicle

/-- All groups are closed and the newest one goes to the redo side. -/
def undo (chronicle : Chronicle) (history : History) : Chronicle :=
  let closed := chronicle.close history
  match closed.done with
  | [] => closed
  | before :: older => { closed with done := older, undone := before :: closed.undone }

/-- The next group goes back to the undo side. -/
def redo (chronicle : Chronicle) : Chronicle :=
  match chronicle.undone with
  | [] => chronicle
  | before :: newer => { chronicle with done := before :: chronicle.done, undone := newer }

/-- The text before the oldest group that can be undone, or else the present one. -/
def oldest (chronicle : Chronicle) (present : List Char) : List Char :=
  chronicle.done.getLast?.getD present

end Chronicle

namespace Buffer

/-- The runs of edits and calls that make a buffer out of a text, each with its chronicle. -/
inductive ToldBy (text : List Char) : Buffer → Chronicle → Prop where
  | start :
      ToldBy text (ofText text) {}
  | edit
      {buffer : Buffer}
      {chronicle : Chronicle}
      (told : ToldBy text buffer chronicle)
      (edit : Edit)
      (fits : edit.Fits buffer.text) :
      ToldBy text (buffer.perform edit) (chronicle.record buffer.history buffer.text)
  | beginGroup
      {buffer : Buffer}
      {chronicle : Chronicle}
      (told : ToldBy text buffer chronicle)
      (description : String) :
      ToldBy text (buffer.beginGroup description) chronicle
  | commitGroup
      {buffer : Buffer}
      {chronicle : Chronicle}
      (told : ToldBy text buffer chronicle) :
      ToldBy text buffer.commitGroup (chronicle.commitGroup buffer.history)
  | rollbackGroup
      {buffer : Buffer}
      {chronicle : Chronicle}
      (told : ToldBy text buffer chronicle) :
      ToldBy text buffer.rollbackGroup chronicle
  | undo
      {buffer : Buffer}
      {chronicle : Chronicle}
      (told : ToldBy text buffer chronicle) :
      ToldBy text buffer.undo.2 (chronicle.undo buffer.history)
  | redo
      {buffer : Buffer}
      {chronicle : Chronicle}
      (told : ToldBy text buffer chronicle) :
      ToldBy text buffer.redo.2 chronicle.redo

/-- New edits are told one by one. -/
theorem ToldBy.performs
    {text : List Char}
    {before after : Buffer}
    {chronicle : Chronicle}
    (told : ToldBy text before chronicle)
    (performs : Performs before after) :
    ∃ chronicle, ToldBy text after chronicle := by
  induction performs with
  | nothing =>
      exact ⟨chronicle, told⟩
  | edit _ edit fits inductionHypothesis =>
      obtain ⟨_, toldBetween⟩ := inductionHypothesis
      exact ⟨_, toldBetween.edit edit fits⟩

/-- Every run of calls has a chronicle. -/
theorem ReachedFrom.told
    {text : List Char}
    {buffer : Buffer}
    (reached : ReachedFrom text buffer) :
    ∃ chronicle, ToldBy text buffer chronicle := by
  induction reached with
  | start =>
      exact ⟨_, .start⟩
  | @call buffer _ call inductionHypothesis =>
      obtain ⟨_, told⟩ := inductionHypothesis
      cases call with
      | beginGroup description =>
          exact ⟨_, told.beginGroup description⟩
      | commitGroup =>
          exact ⟨_, told.commitGroup⟩
      | rollbackGroup =>
          exact ⟨_, told.rollbackGroup⟩
      | undo =>
          exact ⟨_, told.undo⟩
      | redo =>
          exact ⟨_, told.redo⟩
      | _ =>
          exact told.performs (Call.performs_of_isChange rfl buffer)

theorem ToldBy.sound
    {text : List Char}
    {buffer : Buffer}
    {chronicle : Chronicle}
    (told : ToldBy text buffer chronicle) :
    buffer.Sound := by
  induction told with
  | start =>
      exact sound_ofText text
  | edit _ edit fits inductionHypothesis =>
      exact (Performs.edit .nothing edit fits).sound inductionHypothesis
  | beginGroup _ description inductionHypothesis =>
      exact inductionHypothesis.run (.beginGroup description)
  | commitGroup _ inductionHypothesis =>
      exact inductionHypothesis.run .commitGroup
  | rollbackGroup _ inductionHypothesis =>
      exact inductionHypothesis.rollbackGroup
  | undo _ inductionHypothesis =>
      exact inductionHypothesis.undo
  | redo _ inductionHypothesis =>
      exact inductionHypothesis.redo

end Buffer

namespace Chronicle

/-- The chronicle of a run that began with `start` agrees with the history at a text. -/
structure Agrees
    (chronicle : Chronicle)
    (start : List Char)
    (history : History)
    (text : List Char) : Prop where
  base : history.pending ≠ [] → chronicle.base = Edit.takeBack history.pending text
  done : chronicle.done = History.textsBefore history.done (Edit.takeBack history.pending text)
  undone : chronicle.undone = History.textsOn history.undone text
  oldest :
    chronicle.overflowed = false →
      chronicle.oldest (Edit.takeBack history.pending text) = start
  depth : history.done.length + history.undone.length ≤ maxUndoDepth

namespace Agrees

variable {chronicle : Chronicle} {history : History} {start text before : List Char}

/-- What a chronicle agrees with are the two sides and the pending edits. -/
theorem congr
    {other : History}
    (agrees : chronicle.Agrees start history text)
    (sameDone : other.done = history.done)
    (sameUndone : other.undone = history.undone)
    (samePending : other.pending = history.pending) :
    chronicle.Agrees start other text := by
  constructor
  · rw [samePending]
    exact agrees.base
  · rw [sameDone, samePending]
    exact agrees.done
  · rw [sameUndone]
    exact agrees.undone
  · rw [samePending]
    exact agrees.oldest
  · rw [sameDone, sameUndone]
    exact agrees.depth

/-- With nothing pending a chronicle is about the present text. -/
theorem of_nothing_pending
    (nothingPending : history.pending = [])
    (done : chronicle.done = History.textsBefore history.done text)
    (undone : chronicle.undone = History.textsOn history.undone text)
    (oldest : chronicle.overflowed = false → chronicle.oldest text = start)
    (depth : history.done.length + history.undone.length ≤ maxUndoDepth) :
    chronicle.Agrees start history text := by
  constructor
  · exact fun somePending => absurd nothingPending somePending
  · rw [nothingPending]
    exact done
  · exact undone
  · rw [nothingPending]
    exact oldest
  · exact depth

/-- A group pushed where nothing can be redone is told with the text that it was made on. -/
theorem push
    {group : EditGroup}
    (idle : history.collecting = none)
    (nothingUndone : history.undone = [])
    (noneUndone : chronicle.undone = [])
    (done : chronicle.done = History.textsBefore history.done before)
    (oldest : chronicle.overflowed = false → chronicle.oldest before = start)
    (depth : history.done.length ≤ maxUndoDepth)
    (made : Edit.takeBack group.edits text = before) :
    (chronicle.push history before).Agrees start (history.push group) text := by
  have stillNothing : (history.push group).undone = [] := nothingUndone
  apply of_nothing_pending
  · rw [History.pending, History.push_collecting, idle]
  · unfold Chronicle.push History.push
    split <;> simp only [History.textsBefore, made, done, History.textsBefore_dropLast]
  · rw [stillNothing]
    unfold Chronicle.push
    split <;> exact noneUndone
  · unfold Chronicle.push
    split
    · simp
    · intro neverFull
      rw [Chronicle.oldest, List.getLast?_cons, Option.getD_some]
      exact oldest neverFull
  · rw [stillNothing]
    unfold History.push
    split <;> simp [maxUndoDepth] at * <;> omega

theorem record
    {edit : Edit}
    (agrees : chronicle.Agrees start history text)
    (fits : edit.Fits text) :
    (chronicle.record history text).Agrees start (history.record edit) (edit.applyTo text) := by
  have shallow : history.done.length ≤ maxUndoDepth :=
    Nat.le_trans (Nat.le_add_right _ _) agrees.depth
  cases collecting : history.collecting with
  | none =>
      have nothingPending : history.pending = [] := by
        rw [History.pending, collecting]
      have done := agrees.done
      have oldest := agrees.oldest
      rw [nothingPending, Edit.takeBack_nil] at done oldest
      have recorded :
          history.record edit =
            { history with undone := [] }.push (({} : EditGroup).add edit) := by
        simp only [History.record, collecting]
      have told :
          chronicle.record history text =
            { chronicle with undone := [] }.push { history with undone := [] } text := by
        simp [Chronicle.record, History.inGroup, collecting, Chronicle.push]
      rw [recorded, told]
      apply push
      · exact collecting
      · rfl
      · rfl
      · exact done
      · exact oldest
      · exact shallow
      · exact fits.applyTo_inverse
  | some collected =>
      have pending : (history.record edit).pending = history.pending ++ [edit] :=
        History.record_pending (by simp [History.groupDepth, collecting]) edit
      have sameSides :
          (history.record edit).done = history.done ∧ (history.record edit).undone = [] := by
        simp [History.record, collecting]
      have same :
          Edit.takeBack (history.pending ++ [edit]) (edit.applyTo text) =
            Edit.takeBack history.pending text :=
        Edit.takeBack_concat fits
      rw [record_of_inGroup chronicle text (by simp [History.inGroup, collecting])]
      constructor
      · intro _
        rw [pending, same]
        dsimp only
        split
        · rename_i nothingPending
          rw [nothingPending, Edit.takeBack_nil]
        · rename_i somePending
          exact agrees.base somePending
      · rw [pending, same, sameSides.1]
        exact agrees.done
      · rw [sameSides.2]
        rfl
      · rw [pending, same]
        exact agrees.oldest
      · rw [sameSides.1, sameSides.2]
        exact shallow

/-- Closing all groups keeps a chronicle in agreement. -/
theorem close
    (agrees : chronicle.Agrees start history text)
    (nothingUndone : history.pending ≠ [] → history.undone = []) :
    (chronicle.close history).Agrees start history.commitAll text := by
  by_cases nothingPending : history.pending = []
  · have told : chronicle.close history = chronicle := if_pos nothingPending
    rw [told, History.commitAll_of_nothing_pending nothingPending]
    apply Agrees.congr agrees
    · rfl
    · rfl
    · rw [nothingPending]
      rfl
  · obtain ⟨group, edits, closed⟩ := History.commitAll_of_pending nothingPending
    have told :
        chronicle.close history =
          chronicle.push { history with collecting := none } chronicle.base :=
      if_neg nothingPending
    have base := agrees.base nothingPending
    have noneUndone := agrees.undone
    rw [nothingUndone nothingPending] at noneUndone
    rw [told, closed]
    apply push
    · rfl
    · exact nothingUndone nothingPending
    · exact noneUndone
    · rw [base]
      exact agrees.done
    · rw [base]
      exact agrees.oldest
    · exact Nat.le_trans (Nat.le_add_right _ _) agrees.depth
    · rw [edits, base]

end Agrees

end Chronicle

end ChordEditor
