import ChordEditor.Proofs.Buffer.Replay

namespace ChordEditor

/-!
# Histories that account for a text

A history accounts for a text when its groups can be replayed from it: the groups on
the undo side lead from some oldest text to the text before the group being
collected, that group leads on to the present text, and the groups on the redo side
lead on from there.  While the group being collected has edits, nothing can be
redone.

Every change of a buffer keeps its history accounting for its text.
-/

namespace History

/-- The edits of the group being collected. -/
def pending (history : History) : List Edit :=
  match history.collecting with
  | none => []
  | some collected => collected.group.edits

/-- Groups, the newest first, that lead from an oldest text to a text. -/
def LeadFrom : List EditGroup → List Char → List Char → Prop
  | [], oldest, text => oldest = text
  | group :: older, oldest, text =>
      ∃ earlier, Edit.Lead group.edits earlier text ∧ LeadFrom older oldest earlier

/-- Groups, the next one first, that lead on from a text. -/
def LeadOn : List EditGroup → List Char → Prop
  | [], _ => True
  | group :: newer, text =>
      ∃ later, Edit.Lead group.edits text later ∧ LeadOn newer later

/-- The history can be replayed around a text. -/
structure AccountsFor
    (history : History)
    (oldest base text : List Char) : Prop where
  done_lead : LeadFrom history.done oldest base
  pending_lead : Edit.Lead history.pending base text
  undone_lead : LeadOn history.undone text
  nothing_undone : history.pending ≠ [] → history.undone = []

/-- The groups that are kept when the oldest one is dropped still lead to the text. -/
theorem LeadFrom.dropLast
    {groups : List EditGroup}
    {oldest text : List Char}
    (leads : LeadFrom groups oldest text) :
    ∃ second, LeadFrom groups.dropLast second text := by
  induction groups generalizing text with
  | nil =>
      exact ⟨text, rfl⟩
  | cons group older inductionHypothesis =>
      obtain ⟨earlier, groupLeads, olderLead⟩ := leads
      cases older with
      | nil =>
          exact ⟨text, rfl⟩
      | cons next more =>
          obtain ⟨second, keptLead⟩ := inductionHypothesis olderLead
          exact ⟨second, earlier, groupLeads, keptLead⟩

/-- A pushed group leads on from where the others lead. -/
theorem push_leadFrom
    {history : History}
    {group : EditGroup}
    {oldest base text : List Char}
    (doneLead : LeadFrom history.done oldest base)
    (groupLeads : Edit.Lead group.edits base text) :
    ∃ oldest, LeadFrom (history.push group).done oldest text := by
  unfold push
  split
  · obtain ⟨second, keptLead⟩ := doneLead.dropLast
    exact ⟨second, base, groupLeads, keptLead⟩
  · exact ⟨oldest, base, groupLeads, doneLead⟩

/-- A history that collects nothing accounts for the text after its newest group. -/
theorem AccountsFor.of_idle
    {history : History}
    {oldest text : List Char}
    (idle : history.collecting = none)
    (doneLead : LeadFrom history.done oldest text)
    (undoneLead : LeadOn history.undone text) :
    history.AccountsFor oldest text text := by
  have nothingPending : history.pending = [] := by
    rw [pending, idle]
  exact
    { done_lead := doneLead
      pending_lead := by
        rw [nothingPending]
        rfl
      undone_lead := undoneLead
      nothing_undone := fun somePending => absurd nothingPending somePending }

@[simp]
theorem push_collecting
    (history : History)
    (group : EditGroup) :
    (history.push group).collecting = history.collecting :=
  rfl

@[simp]
theorem pushUnlessEmpty_undone
    (history : History)
    (group : EditGroup) :
    (history.pushUnlessEmpty group).undone = history.undone := by
  unfold pushUnlessEmpty
  split <;> rfl

@[simp]
theorem pushUnlessEmpty_collecting
    (history : History)
    (group : EditGroup) :
    (history.pushUnlessEmpty group).collecting = history.collecting := by
  unfold pushUnlessEmpty
  split <;> rfl

/-- A group that is put on the undo side unless it is empty leads on from the others. -/
theorem pushUnlessEmpty_leadFrom
    {history : History}
    {group : EditGroup}
    {oldest base text : List Char}
    (doneLead : LeadFrom history.done oldest base)
    (groupLeads : Edit.Lead group.edits base text) :
    ∃ oldest, LeadFrom (history.pushUnlessEmpty group).done oldest text := by
  unfold pushUnlessEmpty
  split
  · rename_i empty
    have noEdits : group.edits = [] := by
      simpa [EditGroup.isEmpty] using empty
    rw [noEdits] at groupLeads
    exact ⟨oldest, groupLeads ▸ doneLead⟩
  · exact push_leadFrom doneLead groupLeads

/-- While a group is collected, what is pending are its edits. -/
theorem pending_of_collecting
    {history : History}
    {collected : OpenGroup}
    (collecting : history.collecting = some collected) :
    history.pending = collected.group.edits := by
  rw [pending, collecting]

/-- A group without edits changes nothing in what the history accounts for. -/
theorem AccountsFor.base_eq
    {history : History}
    {oldest base text : List Char}
    (accounts : history.AccountsFor oldest base text)
    (nothingPending : history.pending = []) :
    base = text := by
  have pendingLead := accounts.pending_lead
  rw [nothingPending] at pendingLead
  exact pendingLead

/-- What a history accounts for depends on its sides and on what is pending. -/
theorem AccountsFor.congr
    {history other : History}
    {oldest base text : List Char}
    (accounts : history.AccountsFor oldest base text)
    (sameDone : other.done = history.done)
    (sameUndone : other.undone = history.undone)
    (samePending : other.pending = history.pending) :
    other.AccountsFor oldest base text := by
  constructor
  · rw [sameDone]
    exact accounts.done_lead
  · rw [samePending]
    exact accounts.pending_lead
  · rw [sameUndone]
    exact accounts.undone_lead
  · rw [samePending, sameUndone]
    exact accounts.nothing_undone

/-- Going back over some of the pending edits leaves the redo side leading on. -/
theorem AccountsFor.undone_lead_before
    {history : History}
    {edits : List Edit}
    {oldest base restored text : List Char}
    (accounts : history.AccountsFor oldest base text)
    (editsLead : Edit.Lead edits restored text)
    (arePending : edits ≠ [] → history.pending ≠ []) :
    LeadOn history.undone restored := by
  cases edits with
  | nil =>
      have same : restored = text := editsLead
      rw [same]
      exact accounts.undone_lead
  | cons edit edits =>
      rw [accounts.nothing_undone (arePending (List.cons_ne_nil edit edits))]
      trivial

/-- Closing the group being collected leaves the history accounting for the text. -/
theorem AccountsFor.close
    {history : History}
    {collected : OpenGroup}
    {oldest base text : List Char}
    (accounts : history.AccountsFor oldest base text)
    (collecting : history.collecting = some collected) :
    ∃ oldest,
      ({ history with collecting := none }.pushUnlessEmpty collected.group).AccountsFor
        oldest text text := by
  have pendingLead := accounts.pending_lead
  rw [pending_of_collecting collecting] at pendingLead
  have pushed :
      ∃ oldest,
        LeadFrom
          ({ history with collecting := none }.pushUnlessEmpty collected.group).done
          oldest text :=
    pushUnlessEmpty_leadFrom accounts.done_lead pendingLead
  obtain ⟨kept, doneLead⟩ := pushed
  refine ⟨kept, .of_idle (by simp) doneLead ?_⟩
  rw [pushUnlessEmpty_undone]
  exact accounts.undone_lead

/-- Closing all groups leaves the history accounting for the text. -/
theorem AccountsFor.commitAll
    {history : History}
    {oldest base text : List Char}
    (accounts : history.AccountsFor oldest base text) :
    ∃ oldest, history.commitAll.AccountsFor oldest text text := by
  unfold History.commitAll
  split
  · rename_i idle
    have same : base = text :=
      accounts.base_eq (by rw [pending, idle])
    subst same
    exact ⟨oldest, accounts⟩
  · rename_i collecting
    exact accounts.close collecting

/-- Closing the innermost group leaves the history accounting for the text. -/
theorem AccountsFor.commitGroup
    {history : History}
    {oldest base text : List Char}
    (accounts : history.AccountsFor oldest base text) :
    ∃ oldest base, history.commitGroup.AccountsFor oldest base text := by
  unfold History.commitGroup
  split
  · exact ⟨oldest, base, accounts⟩
  · rename_i collected collecting
    split
    · exact ⟨oldest, base,
        accounts.congr rfl rfl (pending_of_collecting collecting).symm⟩
    · obtain ⟨kept, closed⟩ := accounts.close collecting
      exact ⟨kept, text, closed⟩

/-- Beginning a group leaves the history accounting for the text. -/
theorem AccountsFor.beginGroup
    {history : History}
    {oldest base text : List Char}
    (accounts : history.AccountsFor oldest base text)
    (description : String) :
    (history.beginGroup description).AccountsFor oldest base text := by
  unfold History.beginGroup
  split
  · rename_i collecting
    exact accounts.congr rfl rfl (pending_of_collecting collecting).symm
  · rename_i idle
    exact accounts.congr rfl rfl (by rw [pending, pending, idle]; rfl)

/-- Recording an edit leaves the history accounting for the text after the edit. -/
theorem AccountsFor.record
    {history : History}
    {edit : Edit}
    {oldest base text : List Char}
    (accounts : history.AccountsFor oldest base text)
    (fits : edit.Fits text) :
    ∃ oldest base, (history.record edit).AccountsFor oldest base (edit.applyTo text) := by
  have pendingLead := accounts.pending_lead
  cases collecting : history.collecting with
  | some collected =>
      rw [pending_of_collecting collecting] at pendingLead
      -- The edit joins the group being collected.
      refine ⟨oldest, base, ?_⟩
      simp only [History.record, collecting]
      exact
        { done_lead := accounts.done_lead
          pending_lead := Edit.lead_concat pendingLead fits
          undone_lead := trivial
          nothing_undone := fun _ => rfl }
  | none =>
      -- No group is open: the edit becomes a group on the undo side.
      have same : base = text :=
        accounts.base_eq (by rw [pending, collecting])
      subst same
      simp only [History.record, collecting]
      have pushed :
          ∃ oldest,
            LeadFrom
              ({ history with undone := [] }.push (({} : EditGroup).add edit)).done
              oldest (edit.applyTo base) :=
        push_leadFrom accounts.done_lead ⟨fits, rfl⟩
      obtain ⟨kept, doneLead⟩ := pushed
      refine ⟨kept, edit.applyTo base, .of_idle ?_ doneLead trivial⟩
      rw [push_collecting]

/--
Giving up the innermost group: its edits lead from some text to the present one, and
what is left of the history accounts for that text.
-/
theorem AccountsFor.abandonGroup
    {history : History}
    {oldest base text : List Char}
    (accounts : history.AccountsFor oldest base text) :
    ∃ restored,
      Edit.Lead history.abandonGroup.1 restored text ∧
        history.abandonGroup.2.AccountsFor oldest base restored := by
  unfold History.abandonGroup
  split
  · exact ⟨text, rfl, accounts⟩
  · rename_i collected collecting
    have pendingLead := accounts.pending_lead
    have nothingUndone := accounts.nothing_undone
    rw [pending_of_collecting collecting] at pendingLead nothingUndone
    split
    -- A nested group: its edits are the last ones of the outer group.
    · rename_i kept outer _
      rw [← List.take_append_drop kept collected.group.edits] at pendingLead
      obtain ⟨restored, keptLead, droppedLead⟩ := Edit.lead_append.mp pendingLead
      refine ⟨restored, droppedLead, accounts.done_lead, keptLead, ?_, ?_⟩
      · apply accounts.undone_lead_before droppedLead
        intro someDropped noEdits
        rw [pending_of_collecting collecting] at noEdits
        exact someDropped (by rw [noEdits, List.drop_nil])
      · intro someKept
        apply nothingUndone
        intro noEdits
        apply someKept
        simp [pending, noEdits]
    · refine ⟨base, pendingLead, accounts.done_lead, rfl, ?_, ?_⟩
      · apply accounts.undone_lead_before pendingLead
        intro someEdits
        rwa [pending_of_collecting collecting]
      · exact fun somePending => absurd rfl somePending

end History

end ChordEditor
