import ChordEditor.Proofs.Buffer.Accounts
import ChordEditor.Proofs.Buffer.Performing

namespace ChordEditor.Buffer

/-!
# Undoing and redoing

The history of a buffer accounts for its text after any calls (`ReachedFrom.sound`).
So undoing and redoing move along one chain of texts: redoing as often as one has
undone meets the same texts again (`redo_retraces_undo`), and every edit that is
replayed on the way fits the text that it is applied to.
-/

/-- A call that may change a buffer. -/
inductive Call where
  | insert (place : Nat) (piece : List Char)
  | delete (start stop : Nat)
  | replace (start stop : Nat) (piece : List Char)
  | replaceAll (needle replacement : List Char)
  | beginGroup (description : String)
  | commitGroup
  | rollbackGroup
  | undo
  | redo

namespace Call

/-- The buffer after a call; a refused change leaves it as it was. -/
def run (call : Call) (buffer : Buffer) : Buffer :=
  match call with
  | .insert place piece =>
      match buffer.insert place piece with
      | .ok changed => changed
      | .error _ => buffer
  | .delete start stop =>
      match buffer.delete start stop with
      | .ok (_, changed) => changed
      | .error _ => buffer
  | .replace start stop piece =>
      match buffer.replace start stop piece with
      | .ok (_, changed) => changed
      | .error _ => buffer
  | .replaceAll needle replacement =>
      match buffer.replaceAll needle replacement with
      | .ok (_, changed) => changed
      | .error _ => buffer
  | .beginGroup description => buffer.beginGroup description
  | .commitGroup => buffer.commitGroup
  | .rollbackGroup => buffer.rollbackGroup
  | .undo => buffer.undo.2
  | .redo => buffer.redo.2

/-- The edits of the history that a call replays, as they are applied. -/
def replayed? (call : Call) (buffer : Buffer) : Option (List Edit) :=
  match call with
  | .rollbackGroup => some (Edit.takingBack buffer.history.abandonGroup.1)
  | .undo =>
      buffer.history.commitAll.done.head?.map fun group => Edit.takingBack group.edits
  | .redo => buffer.history.undone.head?.map EditGroup.edits
  | _ => none

/-- Whether the call makes new edits. -/
def isChange : Call → Bool
  | .insert .. | .delete .. | .replace .. | .replaceAll .. => true
  | _ => false

/-- The text that a call brings into the buffer, apart from what the history holds. -/
def brought : Call → List Char
  | .insert _ piece | .replace _ _ piece => piece
  | .replaceAll _ replacement => replacement
  | _ => []

/-- What changes keep is kept by each call that makes new edits, accepted or not. -/
theorem keeps_of_isChange
    {admits : List Char → Prop}
    {keeps : Buffer → Buffer → Prop}
    {call : Call}
    (kept : KeptByChanges admits keeps)
    (changes : call.isChange = true)
    (admitted : admits call.brought)
    (buffer : Buffer) :
    keeps buffer (call.run buffer) := by
  cases call with
  | insert place piece =>
      simp only [run]
      split
      · exact kept.insert admitted ‹_›
      · exact kept.refl buffer
  | delete start stop =>
      simp only [run]
      split
      · exact kept.delete ‹_›
      · exact kept.refl buffer
  | replace start stop piece =>
      simp only [run]
      split
      · exact kept.replace admitted ‹_›
      · exact kept.refl buffer
  | replaceAll needle replacement =>
      simp only [run]
      split
      · exact kept.replaceAll admitted ‹_›
      · exact kept.refl buffer
  | beginGroup | commitGroup | rollbackGroup | undo | redo =>
      cases changes

/-- A call that makes new edits makes nothing else. -/
theorem performs_of_isChange
    {call : Call}
    (changes : call.isChange = true)
    (buffer : Buffer) :
    Performs buffer (call.run buffer) :=
  keeps_of_isChange performs_keptByChanges changes trivial buffer

end Call

/-- The buffers that calls make out of a text. -/
inductive ReachedFrom (text : List Char) : Buffer → Prop where
  | start :
      ReachedFrom text (ofText text)
  | call
      {buffer : Buffer}
      (reached : ReachedFrom text buffer)
      (call : Call) :
      ReachedFrom text (call.run buffer)

/--
The texts met while taking a step `count` times, the present one first, and the
buffer arrived at, if no step is refused.
-/
def walk
    (step : Buffer → Except EditError Nat × Buffer) :
    Nat → Buffer → Option (List (List Char) × Buffer)
  | 0, buffer => some ([buffer.text], buffer)
  | count + 1, buffer =>
      match step buffer with
      | (.error _, _) => none
      | (.ok _, next) =>
          (walk step count next).map fun (texts, last) => (buffer.text :: texts, last)

/-- The history of a buffer accounts for its text. -/
def Sound (buffer : Buffer) : Prop :=
  ∃ oldest base, buffer.history.AccountsFor oldest base buffer.text

/-- A buffer without history is sound. -/
theorem sound_ofText (text : List Char) : (ofText text).Sound :=
  ⟨text, text, .of_idle rfl rfl trivial⟩

/-- New edits keep a buffer sound. -/
theorem Performs.sound
    {before after : Buffer}
    (performs : Performs before after)
    (sound : before.Sound) :
    after.Sound := by
  induction performs with
  | nothing =>
      exact sound
  | edit _ edit fits inductionHypothesis =>
      obtain ⟨oldest, base, accounts⟩ := inductionHypothesis
      exact accounts.record fits

/-- While edits are pending nothing can be redone. -/
theorem Sound.nothing_undone
    {buffer : Buffer}
    (sound : buffer.Sound)
    (somePending : buffer.history.pending ≠ []) :
    buffer.history.undone = [] := by
  obtain ⟨oldest, base, accounts⟩ := sound
  exact accounts.nothing_undone somePending

/-- While something can be redone the group being collected has no edits. -/
theorem Sound.nothing_pending
    {buffer : Buffer}
    (sound : buffer.Sound)
    (someUndone : buffer.history.undone ≠ []) :
    buffer.history.pending = [] := by
  cases pending : buffer.history.pending with
  | nil =>
      rfl
  | cons edit edits =>
      exact absurd (sound.nothing_undone (by simp [pending])) someUndone

/-- The buffer with all its groups closed. -/
def closed (buffer : Buffer) : Buffer :=
  { buffer with history := buffer.history.commitAll }

/-- Closing all groups keeps a buffer sound. -/
theorem Sound.closed
    {buffer : Buffer}
    (sound : buffer.Sound) :
    ∃ oldest, buffer.closed.history.AccountsFor oldest buffer.text buffer.text := by
  obtain ⟨oldest, base, accounts⟩ := sound
  exact accounts.commitAll

/-- After all groups are closed none is collected. -/
theorem commitAll_collecting (history : History) : history.commitAll.collecting = none := by
  unfold History.commitAll
  split
  · assumption
  · simp

/-- Closing all groups a second time changes nothing. -/
theorem commitAll_of_idle
    {history : History}
    (idle : history.collecting = none) :
    history.commitAll = history := by
  rw [History.commitAll, idle]

/-- With no group left to undo the call is refused, and only the groups are closed. -/
theorem undo_of_done_nil
    {buffer : Buffer}
    (nothingDone : buffer.history.commitAll.done = []) :
    buffer.undo = (.error .nothingToUndo, buffer.closed) := by
  simp only [undo, nothingDone]
  rfl

/-- Undoing moves the newest group to the redo side and takes its edits back. -/
theorem undo_of_done_cons
    {buffer : Buffer}
    {group : EditGroup}
    {older : List EditGroup}
    (newest : buffer.history.commitAll.done = group :: older) :
    ∃ place undone,
      buffer.undo = (.ok place, undone) ∧
        undone.text = (buffer.closed.revertAll group.edits).text ∧
        undone.history =
          { buffer.history.commitAll with
            done := older
            undone := group :: buffer.history.commitAll.undone } := by
  let reverted := buffer.closed.revertAll group.edits
  let undone : Buffer :=
    { reverted with
      history :=
        { reverted.history with
          done := older
          undone := group :: reverted.history.undone } }
  refine ⟨undone.anchorOf group, undone, ?_, rfl, ?_⟩
  · simp only [undo, newest]
    rfl
  · simp only [undone, reverted, revertAll_history]
    rfl

/-- With no group left to redo the call is refused. -/
theorem redo_of_undone_nil
    {buffer : Buffer}
    (nothingUndone : buffer.history.undone = []) :
    buffer.redo = (.error .nothingToRedo, buffer) := by
  simp only [redo, nothingUndone]

/-- Redoing moves the next group to the undo side and applies its edits again. -/
theorem redo_of_undone_cons
    {buffer : Buffer}
    {group : EditGroup}
    {newer : List EditGroup}
    (next : buffer.history.undone = group :: newer) :
    ∃ place redone,
      buffer.redo = (.ok place, redone) ∧
        redone.text = (buffer.reapplyAll group.edits).text ∧
        redone.history =
          { buffer.history with
            done := group :: buffer.history.done
            undone := newer } := by
  let reapplied := buffer.reapplyAll group.edits
  let redone : Buffer :=
    { reapplied with
      history :=
        { reapplied.history with
          done := group :: reapplied.history.done
          undone := newer } }
  refine ⟨redone.anchorOf group, redone, ?_, rfl, ?_⟩
  · simp only [redo, next]
    rfl
  · simp only [redone, reapplied, reapplyAll_history]

/-- An accepted undo of a sound buffer: the newest group led from the text that it gives. -/
theorem Sound.undo_ok
    {buffer undone : Buffer}
    {place : Nat}
    (sound : buffer.Sound)
    (stepped : buffer.undo = (.ok place, undone)) :
    ∃ group older oldest,
      buffer.history.commitAll.done = group :: older ∧
        Edit.Lead group.edits undone.text buffer.text ∧
        History.LeadFrom older oldest undone.text ∧
        History.LeadOn buffer.history.commitAll.undone buffer.text ∧
        undone.history =
          { buffer.history.commitAll with
            done := older
            undone := group :: buffer.history.commitAll.undone } := by
  obtain ⟨oldest, accounts⟩ := sound.closed
  cases done : buffer.history.commitAll.done with
  | nil =>
      rw [undo_of_done_nil done] at stepped
      cases stepped
  | cons group older =>
      obtain ⟨_, _, shape, undoneText, undoneHistory⟩ := undo_of_done_cons done
      rw [stepped] at shape
      cases shape
      have doneLead := accounts.done_lead
      rw [show buffer.closed.history.done = group :: older from done] at doneLead
      obtain ⟨earlier, groupLeads, olderLead⟩ := doneLead
      have textEarlier : undone.text = earlier := by
        rw [undoneText]
        exact revertAll_text groupLeads
      subst textEarlier
      exact ⟨group, older, oldest, rfl, groupLeads, olderLead,
        accounts.undone_lead, undoneHistory⟩

/-- A refused undo has only closed the groups. -/
theorem undo_error
    {buffer undone : Buffer}
    {error : EditError}
    (refused : buffer.undo = (.error error, undone)) :
    undone = buffer.closed := by
  cases done : buffer.history.commitAll.done with
  | nil =>
      rw [undo_of_done_nil done] at refused
      cases refused
      rfl
  | cons group older =>
      obtain ⟨_, _, shape, _⟩ := undo_of_done_cons done
      rw [refused] at shape
      cases shape

/-- Undoing keeps a buffer sound. -/
theorem Sound.undo
    {buffer : Buffer}
    (sound : buffer.Sound) :
    buffer.undo.2.Sound := by
  cases stepped : buffer.undo with
  | mk result undone =>
      cases result with
      | error error =>
          obtain ⟨oldest, accounts⟩ := sound.closed
          rw [undo_error stepped]
          exact ⟨oldest, buffer.text, accounts⟩
      | ok place =>
          obtain ⟨group, older, oldest, _, groupLeads, olderLead, undoneLead, history⟩ :=
            sound.undo_ok stepped
          refine ⟨oldest, undone.text, ?_⟩
          rw [history]
          exact .of_idle (commitAll_collecting _) olderLead
            ⟨buffer.text, groupLeads, undoneLead⟩

/-- Redoing keeps a buffer sound. -/
theorem Sound.redo
    {buffer : Buffer}
    (sound : buffer.Sound) :
    buffer.redo.2.Sound := by
  cases undoneGroups : buffer.history.undone with
  | nil =>
      rw [redo_of_undone_nil undoneGroups]
      exact sound
  | cons group newer =>
      have nothingPending := sound.nothing_pending (by simp [undoneGroups])
      obtain ⟨oldest, base, accounts⟩ := sound
      obtain ⟨place, redone, shape, text, history⟩ := redo_of_undone_cons undoneGroups
      have undoneLead := accounts.undone_lead
      rw [undoneGroups] at undoneLead
      obtain ⟨later, groupLeads, newerLead⟩ := undoneLead
      have same : base = buffer.text := accounts.base_eq nothingPending
      subst same
      have textLater : redone.text = later := by
        rw [text]
        exact reapplyAll_text groupLeads
      rw [shape]
      refine ⟨oldest, later, ?_⟩
      have samePending : redone.history.pending = [] := by
        rw [history]
        exact nothingPending
      rw [textLater]
      constructor
      · rw [history]
        exact ⟨buffer.text, groupLeads, accounts.done_lead⟩
      · rw [samePending]
        rfl
      · rw [history]
        exact newerLead
      · exact fun somePending => absurd samePending somePending

/-- Rolling back keeps a buffer sound. -/
theorem Sound.rollbackGroup
    {buffer : Buffer}
    (sound : buffer.Sound) :
    buffer.rollbackGroup.Sound := by
  obtain ⟨oldest, base, accounts⟩ := sound
  obtain ⟨restored, editsLead, accountsBefore⟩ := accounts.abandonGroup
  have text : buffer.rollbackGroup.text = restored :=
    revertAll_text editsLead
  have history : buffer.rollbackGroup.history = buffer.history.abandonGroup.2 := by
    rw [Buffer.rollbackGroup, revertAll_history]
  exact ⟨oldest, base, by rwa [text, history]⟩

/-- Every call keeps a buffer sound. -/
theorem Sound.run
    {buffer : Buffer}
    (sound : buffer.Sound)
    (call : Call) :
    (call.run buffer).Sound := by
  cases call with
  | beginGroup description =>
      obtain ⟨oldest, base, accounts⟩ := sound
      exact ⟨oldest, base, accounts.beginGroup description⟩
  | commitGroup =>
      obtain ⟨oldest, base, accounts⟩ := sound
      exact accounts.commitGroup
  | rollbackGroup =>
      exact sound.rollbackGroup
  | undo =>
      exact sound.undo
  | redo =>
      exact sound.redo
  | _ =>
      exact (Call.performs_of_isChange rfl buffer).sound sound

/-- Every buffer that calls make out of a text is sound. -/
theorem ReachedFrom.sound
    {text : List Char}
    {buffer : Buffer}
    (reached : ReachedFrom text buffer) :
    buffer.Sound := by
  induction reached with
  | start =>
      exact sound_ofText text
  | call _ call inductionHypothesis =>
      exact inductionHypothesis.run call

/-- Two buffers have the same text and the same history. -/
def SameContents (first second : Buffer) : Prop :=
  first.text = second.text ∧ first.history = second.history

/-- What replayed edits make of a text depends on the text alone. -/
theorem reapplyAll_text_congr
    {first second : Buffer}
    (same : first.text = second.text)
    (edits : List Edit) :
    (first.reapplyAll edits).text = (second.reapplyAll edits).text := by
  induction edits generalizing first second with
  | nil =>
      exact same
  | cons edit edits inductionHypothesis =>
      exact inductionHypothesis (by rw [applyEdit_text, applyEdit_text, same])

/-- Redoing depends on text and history alone. -/
theorem SameContents.redo
    {first second next : Buffer}
    {place : Nat}
    (same : SameContents first second)
    (redone : first.redo = (.ok place, next)) :
    ∃ place other, second.redo = (.ok place, other) ∧ SameContents next other := by
  cases undoneGroups : first.history.undone with
  | nil =>
      rw [redo_of_undone_nil undoneGroups] at redone
      cases redone
  | cons group newer =>
      obtain ⟨_, _, firstShape, firstText, firstHistory⟩ :=
        redo_of_undone_cons undoneGroups
      rw [same.2] at undoneGroups
      obtain ⟨place, other, secondShape, secondText, secondHistory⟩ :=
        redo_of_undone_cons undoneGroups
      rw [redone] at firstShape
      cases firstShape
      refine ⟨place, other, secondShape, ?_, ?_⟩
      · rw [firstText, secondText]
        exact reapplyAll_text_congr same.1 group.edits
      · rw [firstHistory, secondHistory, same.2]

/-- Redoing what was undone brings back the text, with all groups closed. -/
theorem redo_after_undo
    {buffer undone : Buffer}
    {place : Nat}
    (sound : buffer.Sound)
    (stepped : buffer.undo = (.ok place, undone)) :
    ∃ place redone, undone.redo = (.ok place, redone) ∧ SameContents redone buffer.closed := by
  obtain ⟨group, older, _, done, groupLeads, _, _, undoneHistory⟩ := sound.undo_ok stepped
  have next : undone.history.undone = group :: buffer.history.commitAll.undone := by
    rw [undoneHistory]
  obtain ⟨place, redone, shape, redoneText, redoneHistory⟩ := redo_of_undone_cons next
  refine ⟨place, redone, shape, ?_, ?_⟩
  · rw [redoneText]
    exact reapplyAll_text groupLeads
  · rw [redoneHistory, undoneHistory]
    simp only [← done]
    rfl

/-- A walk of one step more begins with that step. -/
theorem walk_succ
    {step : Buffer → Except EditError Nat × Buffer}
    {count : Nat}
    {buffer last : Buffer}
    {texts : List (List Char)} :
    walk step (count + 1) buffer = some (texts, last) ↔
      ∃ place next later,
        step buffer = (.ok place, next) ∧
          walk step count next = some (later, last) ∧
          texts = buffer.text :: later := by
  rw [walk]
  constructor
  · intro walked
    split at walked
    · contradiction
    · rename_i place next stepped
      obtain ⟨⟨later, arrived⟩, rest, shape⟩ := Option.map_eq_some_iff.mp walked
      cases shape
      exact ⟨place, next, later, stepped, rest, rfl⟩
  · rintro ⟨place, next, later, stepped, rest, rfl⟩
    simp only [stepped, rest, Option.map_some]

/-- One step more at the end of a walk. -/
theorem walk_concat
    {step : Buffer → Except EditError Nat × Buffer}
    {count : Nat}
    {buffer last next : Buffer}
    {texts : List (List Char)}
    {place : Nat}
    (walked : walk step count buffer = some (texts, last))
    (stepped : step last = (.ok place, next)) :
    walk step (count + 1) buffer = some (texts ++ [next.text], next) := by
  induction count generalizing buffer texts with
  | zero =>
      cases walked
      exact walk_succ.mpr ⟨place, next, _, stepped, rfl, rfl⟩
  | succ count inductionHypothesis =>
      obtain ⟨firstPlace, second, later, first, rest, rfl⟩ := walk_succ.mp walked
      exact walk_succ.mpr
        ⟨firstPlace, second, later ++ [next.text], first, inductionHypothesis rest, rfl⟩

/-- From a buffer without open groups, redoing retraces what was undone. -/
theorem walk_redo_of_idle
    {count : Nat}
    {buffer undone : Buffer}
    {texts : List (List Char)}
    (sound : buffer.Sound)
    (idle : buffer.history.collecting = none)
    (walked : walk undo count buffer = some (texts, undone)) :
    ∃ redone,
      walk redo count undone = some (texts.reverse, redone) ∧
        SameContents redone buffer := by
  -- The induction is on the number of undo steps: redoing retraces all but the first one,
  -- and leaves contents from which the redo of the first one starts.
  induction count generalizing buffer texts with
  | zero =>
      cases walked
      exact ⟨undone, rfl, rfl, rfl⟩
  | succ count inductionHypothesis =>
      obtain ⟨place, next, later, stepped, rest, rfl⟩ := walk_succ.mp walked
      have nextSound : next.Sound := by
        have kept := sound.undo
        rwa [stepped] at kept
      have nextIdle : next.history.collecting = none := by
        obtain ⟨_, _, _, _, _, _, _, history⟩ := sound.undo_ok stepped
        rw [history]
        exact commitAll_collecting _
      obtain ⟨retraced, back, sameNext⟩ := inductionHypothesis nextSound nextIdle rest
      obtain ⟨_, again, redoNext, sameAgain⟩ := redo_after_undo sound stepped
      obtain ⟨_, redone, redoRetraced, sameRedone⟩ :=
        SameContents.redo ⟨sameNext.1.symm, sameNext.2.symm⟩ redoNext
      have closedSame : buffer.closed = buffer := by
        rw [Buffer.closed, commitAll_of_idle idle]
      rw [closedSame] at sameAgain
      have textBack : redone.text = buffer.text :=
        sameRedone.1.symm.trans sameAgain.1
      have historyBack : redone.history = buffer.history :=
        sameRedone.2.symm.trans sameAgain.2
      refine ⟨redone, ?_, textBack, historyBack⟩
      rw [List.reverse_cons, ← textBack]
      exact walk_concat back redoRetraced

/-- Undoing starts by closing all groups. -/
theorem undo_closed (buffer : Buffer) : buffer.closed.undo = buffer.undo := by
  unfold undo closed
  rw [commitAll_of_idle (commitAll_collecting _)]

/-- A walk of undo steps only depends on the groups that are open at its start by closing them. -/
theorem walk_undo_closed
    {count : Nat}
    {buffer undone : Buffer}
    {texts : List (List Char)}
    (walked : walk undo (count + 1) buffer = some (texts, undone)) :
    walk undo (count + 1) buffer.closed = some (texts, undone) := by
  obtain ⟨place, next, later, stepped, rest, shape⟩ := walk_succ.mp walked
  exact walk_succ.mpr ⟨place, next, later, by rwa [undo_closed], rest, shape⟩

/-- The edits that a call replays fit one after the other and lead to the text it leaves. -/
theorem Sound.replayed_lead
    {buffer : Buffer}
    {call : Call}
    {edits : List Edit}
    (sound : buffer.Sound)
    (replayed : call.replayed? buffer = some edits) :
    Edit.Lead edits buffer.text (call.run buffer).text := by
  cases call with
  | rollbackGroup =>
      cases replayed
      obtain ⟨oldest, base, accounts⟩ := sound
      obtain ⟨restored, editsLead, _⟩ := accounts.abandonGroup
      have text : buffer.rollbackGroup.text = restored :=
        revertAll_text editsLead
      rw [Call.run, text]
      exact editsLead.takingBack
  | undo =>
      cases done : buffer.history.commitAll.done with
      | nil =>
          simp [Call.replayed?, done] at replayed
      | cons group older =>
          obtain ⟨place, undone, shape, _⟩ := undo_of_done_cons done
          obtain ⟨_, _, _, sameDone, groupLeads, _⟩ := sound.undo_ok shape
          rw [done] at sameDone
          cases sameDone
          simp only [Call.replayed?, done, List.head?_cons, Option.map_some,
            Option.some.injEq] at replayed
          subst replayed
          rw [Call.run, shape]
          exact groupLeads.takingBack
  | redo =>
      cases undoneGroups : buffer.history.undone with
      | nil =>
          simp [Call.replayed?, undoneGroups] at replayed
      | cons group newer =>
          obtain ⟨oldest, base, accounts⟩ := sound
          obtain ⟨place, redone, shape, text, _⟩ := redo_of_undone_cons undoneGroups
          have undoneLead := accounts.undone_lead
          rw [undoneGroups] at undoneLead
          obtain ⟨later, groupLeads, _⟩ := undoneLead
          simp only [Call.replayed?, undoneGroups, List.head?_cons, Option.map_some,
            Option.some.injEq] at replayed
          subst replayed
          rw [Call.run, shape, text, reapplyAll_text groupLeads]
          exact groupLeads
  | _ =>
      cases replayed

/--
Redoing as often as one has undone retraces the texts met on the way, back to the text
before the first undo; and whatever is replayed from the history, by undoing, redoing
or rolling back, fits the text at each step.
-/
theorem redo_retraces_undo
    {text : List Char}
    {buffer : Buffer}
    (reached : ReachedFrom text buffer) :
    (∀ count texts undone,
      walk undo count buffer = some (texts, undone) →
        ∃ redone,
          walk redo count undone = some (texts.reverse, redone) ∧
            redone.text = buffer.text) ∧
      ∀ (call : Call) edits,
        call.replayed? buffer = some edits →
          Edit.Lead edits buffer.text (call.run buffer).text := by
  have sound := reached.sound
  constructor
  · intro count texts undone walked
    cases count with
    | zero =>
        cases walked
        exact ⟨buffer, rfl, rfl⟩
    | succ count =>
        -- The first undo closes all groups, so the walk may as well start with them closed.
        obtain ⟨oldest, accounts⟩ := sound.closed
        have closedSound : buffer.closed.Sound :=
          ⟨oldest, buffer.text, accounts⟩
        obtain ⟨redone, back, same⟩ :=
          walk_redo_of_idle closedSound (commitAll_collecting _) (walk_undo_closed walked)
        exact ⟨redone, back, same.1⟩
  · intro call edits replayed
    exact sound.replayed_lead replayed

/-- An insertion, and a replacement in a group that is still open, undone and redone. -/
theorem redo_retraces_undo_twice :
    ∃ buffer undone redone,
      ReachedFrom ['a', 'b'] buffer ∧
        walk undo 2 buffer = some ([['x', 'c'], ['a', 'b', 'c'], ['a', 'b']], undone) ∧
        walk redo 2 undone = some ([['a', 'b'], ['a', 'b', 'c'], ['x', 'c']], redone) ∧
        redone.text = buffer.text := by
  have started : ReachedFrom ['a', 'b'] (ofText ['a', 'b']) :=
    .start
  have reached :=
    ((started.call (.insert 2 ['c'])).call (.beginGroup "change")).call
      (.replace 0 2 ['x'])
  obtain ⟨redone, back, text⟩ :=
    (redo_retraces_undo reached).1 2 [['x', 'c'], ['a', 'b', 'c'], ['a', 'b']] _ rfl
  exact ⟨_, _, redone, reached, rfl, back, text⟩

end ChordEditor.Buffer
