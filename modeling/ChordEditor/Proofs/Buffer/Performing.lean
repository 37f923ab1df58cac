import ChordEditor.Proofs.Buffer.Replay

namespace ChordEditor.Buffer

/-!
# Buffers changed by new edits

All changes that a buffer accepts, except undoing, redoing and rolling back, are made
of new edits that fit the text and are recorded one by one.  `Performs` says so of
two buffers, and what follows from it is said here once: the edits lead from one text
to the other, and they are what the history and the version have gained.
-/

/-- The second buffer comes from the first one by new edits that fit. -/
inductive Performs (start : Buffer) : Buffer → Prop where
  | nothing :
      Performs start start
  | edit
      {between : Buffer}
      (earlier : Performs start between)
      (edit : Edit)
      (fits : edit.Fits between.text) :
      Performs start (between.perform edit)

namespace Performs

/-- New edits after new edits are new edits. -/
theorem trans
    {first second third : Buffer}
    (earlier : Performs first second)
    (later : Performs second third) :
    Performs first third := by
  induction later with
  | nothing =>
      exact earlier
  | edit _ edit fits inductionHypothesis =>
      exact .edit inductionHypothesis edit fits

/-- The edits that have been performed: texts, histories and versions follow from them. -/
theorem edits
    {before after : Buffer}
    (performs : Performs before after) :
    ∃ edits,
      Edit.Lead edits before.text after.text ∧
        after.history = edits.foldl History.record before.history ∧
        after.version = before.version + edits.length := by
  induction performs with
  | nothing =>
      exact ⟨[], rfl, rfl, rfl⟩
  | edit earlier edit fits inductionHypothesis =>
      obtain ⟨edits, leads, recorded, counted⟩ := inductionHypothesis
      refine ⟨edits ++ [edit], Edit.lead_concat leads fits, ?_, ?_⟩
      · rw [List.foldl_append, ← recorded]
        rfl
      · rw [List.length_append, ← Nat.add_assoc, ← counted]
        rfl

end Performs

/-- The second buffer comes from the first one by at most one new edit. -/
def PerformsOnce (before after : Buffer) : Prop :=
  after = before ∨ ∃ edit, edit.Fits before.text ∧ after = before.perform edit

/-- At most one new edit is some new edits. -/
theorem PerformsOnce.performs
    {before after : Buffer}
    (once : PerformsOnce before after) :
    Performs before after := by
  rcases once with same | ⟨edit, fits, performed⟩
  · rw [same]
    exact .nothing
  · rw [performed]
    exact .edit .nothing edit fits

/-- Only places behind the end are clamped. -/
theorem clamp_lt_iff
    (buffer : Buffer)
    (place : Nat) :
    buffer.clamp place < place ↔ buffer.length < place := by
  rw [clamp_eq_min]
  omega

/-- An insertion is accepted exactly in range. -/
theorem insert_eq
    (buffer : Buffer)
    (place : Nat)
    (piece : List Char) :
    buffer.insert place piece =
      if buffer.length < place then
        .error (.outOfRange place buffer.length)
      else if piece = [] then
        .ok buffer
      else
        .ok (buffer.perform (.insert place piece)) := by
  simp only [insert, clamp_lt_iff, List.isEmpty_iff]

/-- A deletion is accepted exactly in range. -/
theorem delete_eq
    (buffer : Buffer)
    (start stop : Nat) :
    buffer.delete start stop =
      if stop < start then
        .error (.invalidRange start stop)
      else if buffer.length < stop then
        .error (.outOfRange stop buffer.length)
      else if start = stop then
        .ok ([], buffer)
      else
        .ok (buffer.slice start stop,
          buffer.perform (.delete start (buffer.slice start stop))) := by
  simp only [delete, clamp_lt_iff, gt_iff_lt]

/-- What stands between two places of a text can be deleted there. -/
theorem fits_delete_slice
    {buffer : Buffer}
    {start stop : Nat}
    (ordered : start ≤ stop)
    (inRange : stop ≤ buffer.length) :
    (Edit.delete start (buffer.slice start stop)).Fits buffer.text := by
  refine ⟨Nat.le_trans ordered inRange, ?_⟩
  rw [slice, List.drop_take]
  exact List.take_prefix _ _

/-- An accepted insertion performs edits. -/
theorem performs_of_insert
    {buffer changed : Buffer}
    {place : Nat}
    {piece : List Char}
    (accepted : buffer.insert place piece = .ok changed) :
    Performs buffer changed := by
  rw [insert_eq] at accepted
  split at accepted
  · contradiction
  · rename_i inRange
    split at accepted
    · cases accepted
      exact .nothing
    · cases accepted
      exact .edit .nothing _ (Nat.le_of_not_lt inRange)

/-- An accepted deletion performs one edit at most. -/
theorem performsOnce_of_delete
    {buffer changed : Buffer}
    {start stop : Nat}
    {removed : List Char}
    (accepted : buffer.delete start stop = .ok (removed, changed)) :
    PerformsOnce buffer changed := by
  rw [delete_eq] at accepted
  split at accepted
  · contradiction
  · rename_i ordered
    split at accepted
    · contradiction
    · rename_i inRange
      split at accepted
      · cases accepted
        exact .inl rfl
      · cases accepted
        exact .inr
          ⟨_, fits_delete_slice (Nat.le_of_not_lt ordered) (Nat.le_of_not_lt inRange), rfl⟩

/-- An accepted deletion performs edits. -/
theorem performs_of_delete
    {buffer changed : Buffer}
    {start stop : Nat}
    {removed : List Char}
    (accepted : buffer.delete start stop = .ok (removed, changed)) :
    Performs buffer changed :=
  (performsOnce_of_delete accepted).performs

/-- An accepted replacement is a deletion with an insertion after it. -/
theorem replace_eq_ok
    {buffer changed : Buffer}
    {start stop : Nat}
    {piece removed : List Char}
    (accepted : buffer.replace start stop piece = .ok (removed, changed)) :
    ∃ shortened,
      buffer.delete start stop = .ok (removed, shortened) ∧
        shortened.insert start piece = .ok changed := by
  unfold replace at accepted
  cases deleted : buffer.delete start stop with
  | error error =>
      simp [deleted, bind, Except.bind] at accepted
  | ok result =>
      obtain ⟨text, shortened⟩ := result
      cases inserted : shortened.insert start piece with
      | error error =>
          simp [deleted, inserted, bind, Except.bind] at accepted
      | ok lengthened =>
          simp only [deleted, inserted, bind, Except.bind, pure, Except.pure,
            Except.ok.injEq, Prod.mk.injEq] at accepted
          obtain ⟨rfl, rfl⟩ := accepted
          exact ⟨shortened, rfl, inserted⟩

/--
A relation that leads from buffer to buffer, and that holds for all deletions and for the
insertions of some texts.
-/
structure KeptByChanges
    (admits : List Char → Prop)
    (keeps : Buffer → Buffer → Prop) : Prop where
  refl : ∀ buffer, keeps buffer buffer
  trans : ∀ {first second third}, keeps first second → keeps second third → keeps first third
  insert :
    ∀ {before after place piece},
      admits piece → before.insert place piece = .ok after → keeps before after
  delete :
    ∀ {before after start stop removed},
      before.delete start stop = .ok (removed, after) → keeps before after

namespace KeptByChanges

variable {admits : List Char → Prop} {keeps : Buffer → Buffer → Prop} {before after : Buffer}

theorem replace
    (kept : KeptByChanges admits keeps)
    {start stop : Nat}
    {piece removed : List Char}
    (admitted : admits piece)
    (accepted : before.replace start stop piece = .ok (removed, after)) :
    keeps before after := by
  obtain ⟨shortened, deleted, inserted⟩ := replace_eq_ok accepted
  exact kept.trans (kept.delete deleted) (kept.insert admitted inserted)

theorem replaceEach
    (kept : KeptByChanges admits keeps)
    {length : Nat}
    {replacement : List Char}
    {places : List Nat}
    (admitted : admits replacement)
    (accepted : before.replaceEach length replacement places = .ok after) :
    keeps before after := by
  induction places generalizing before with
  | nil =>
      cases accepted
      exact kept.refl _
  | cons place places inductionHypothesis =>
      unfold Buffer.replaceEach at accepted
      cases replaced : before.replace place (place + length) replacement with
      | error error =>
          simp [replaced, bind, Except.bind] at accepted
      | ok result =>
          obtain ⟨removed, between⟩ := result
          simp only [replaced, bind, Except.bind] at accepted
          exact kept.trans (kept.replace admitted replaced) (inductionHypothesis accepted)

theorem replaceAll
    (kept : KeptByChanges admits keeps)
    {needle replacement : List Char}
    {count : Nat}
    (admitted : admits replacement)
    (accepted : before.replaceAll needle replacement = .ok (count, after)) :
    keeps before after := by
  unfold Buffer.replaceAll at accepted
  split at accepted
  · cases accepted
    exact kept.refl _
  · cases replaced : before.replaceEach needle.length replacement
        (Text.occurrences needle before.text).reverse with
    | error error =>
        simp [replaced, bind, Except.bind] at accepted
    | ok changed =>
        simp only [replaced, bind, Except.bind, pure, Except.pure, Except.ok.injEq,
          Prod.mk.injEq] at accepted
        obtain ⟨_, rfl⟩ := accepted
        exact kept.replaceEach admitted replaced

end KeptByChanges

/-- Whatever is inserted, changes perform edits. -/
theorem performs_keptByChanges : KeptByChanges (fun _ => True) Performs where
  refl _ := .nothing
  trans := .trans
  insert _ accepted := performs_of_insert accepted
  delete accepted := performs_of_delete accepted

/-- An accepted replacement performs edits. -/
theorem performs_of_replace
    {buffer changed : Buffer}
    {start stop : Nat}
    {piece removed : List Char}
    (accepted : buffer.replace start stop piece = .ok (removed, changed)) :
    Performs buffer changed :=
  performs_keptByChanges.replace trivial accepted

/-- An accepted replacement of all occurrences performs edits. -/
theorem performs_of_replaceAll
    {buffer changed : Buffer}
    {needle replacement : List Char}
    {count : Nat}
    (accepted : buffer.replaceAll needle replacement = .ok (count, changed)) :
    Performs buffer changed :=
  performs_keptByChanges.replaceAll trivial accepted

end ChordEditor.Buffer
