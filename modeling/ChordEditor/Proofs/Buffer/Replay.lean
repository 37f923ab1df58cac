import ChordEditor.Buffer.Change

namespace ChordEditor

/-!
# Replaying edits

An edit fits a text when it is in range and, if it deletes, deletes the piece that
stands there.  Edits that fit one after the other lead from one text to another, and
their inverses, the last one first, lead back.
-/

namespace Edit

/-- The edit is in range, and a piece that is deleted stands at its place. -/
def Fits : Edit → List Char → Prop
  | .insert place _, text => place ≤ text.length
  | .delete place piece, text => place ≤ text.length ∧ piece <+: text.drop place

/-- A fitting insertion cuts the text in two. -/
theorem fits_insert_iff
    {place : Nat}
    {piece text : List Char} :
    (Edit.insert place piece).Fits text ↔
      ∃ before after,
        text = before ++ after ∧ before.length = place := by
  constructor
  · intro inRange
    exact ⟨text.take place, text.drop place,
      (List.take_append_drop place text).symm,
      List.length_take_of_le inRange⟩
  · rintro ⟨before, after, rfl, rfl⟩
    simp [Fits]

/-- A fitting deletion cuts the text in three, with the piece in the middle. -/
theorem fits_delete_iff
    {place : Nat}
    {piece text : List Char} :
    (Edit.delete place piece).Fits text ↔
      ∃ before after,
        text = before ++ piece ++ after ∧ before.length = place := by
  constructor
  · rintro ⟨inRange, after, rest⟩
    refine ⟨text.take place, after, ?_, List.length_take_of_le inRange⟩
    rw [List.append_assoc, rest, List.take_append_drop]
  · rintro ⟨before, after, rfl, rfl⟩
    simp [Fits]

/-- An insertion puts its piece where the text is cut. -/
@[simp]
theorem applyTo_insert_append (before piece after : List Char) :
    (Edit.insert before.length piece).applyTo (before ++ after) =
      before ++ piece ++ after := by
  simp [applyTo]

/-- A deletion takes its piece out. -/
@[simp]
theorem applyTo_delete_append (before piece after : List Char) :
    (Edit.delete before.length piece).applyTo (before ++ piece ++ after) =
      before ++ after := by
  simp [applyTo]

/-- The inverse of a fitting edit fits the changed text. -/
theorem Fits.inverse
    {edit : Edit}
    {text : List Char}
    (fits : edit.Fits text) :
    edit.inverse.Fits (edit.applyTo text) := by
  cases edit with
  | insert place piece =>
      obtain ⟨before, after, rfl, rfl⟩ := fits_insert_iff.mp fits
      rw [applyTo_insert_append]
      exact fits_delete_iff.mpr ⟨before, after, rfl, rfl⟩
  | delete place piece =>
      obtain ⟨before, after, rfl, rfl⟩ := fits_delete_iff.mp fits
      rw [applyTo_delete_append]
      exact fits_insert_iff.mpr ⟨before, after, rfl, rfl⟩

/-- The inverse of a fitting edit takes it back. -/
theorem Fits.applyTo_inverse
    {edit : Edit}
    {text : List Char}
    (fits : edit.Fits text) :
    edit.inverse.applyTo (edit.applyTo text) = text := by
  cases edit with
  | insert place piece =>
      obtain ⟨before, after, rfl, rfl⟩ := fits_insert_iff.mp fits
      rw [applyTo_insert_append]
      exact applyTo_delete_append before piece after
  | delete place piece =>
      obtain ⟨before, after, rfl, rfl⟩ := fits_delete_iff.mp fits
      rw [applyTo_delete_append]
      exact applyTo_insert_append before piece after

/-- Edits that fit one after the other, and lead from one text to another. -/
def Lead : List Edit → List Char → List Char → Prop
  | [], before, after => before = after
  | edit :: edits, before, after =>
      edit.Fits before ∧ Lead edits (edit.applyTo before) after

/-- The edits that take others back, in the order in which they are applied. -/
def takingBack (edits : List Edit) : List Edit :=
  (edits.map inverse).reverse

/-- Edits lead through the text between two parts of them. -/
theorem lead_append
    {first second : List Edit}
    {before after : List Char} :
    Lead (first ++ second) before after ↔
      ∃ between, Lead first before between ∧ Lead second between after := by
  induction first generalizing before with
  | nil =>
      simp [Lead]
  | cons edit edits inductionHypothesis =>
      simp only [List.cons_append, Lead, inductionHypothesis, and_assoc,
        exists_and_left]

/-- One more edit leads one text further. -/
theorem lead_concat
    {edits : List Edit}
    {edit : Edit}
    {before after : List Char}
    (leads : Lead edits before after)
    (fits : edit.Fits after) :
    Lead (edits ++ [edit]) before (edit.applyTo after) :=
  lead_append.mpr ⟨after, leads, fits, rfl⟩

/-- Taking edits back leads back. -/
theorem Lead.takingBack
    {edits : List Edit}
    {before after : List Char}
    (leads : Lead edits before after) :
    Lead (takingBack edits) after before := by
  induction edits generalizing before with
  | nil =>
      exact leads.symm
  | cons edit edits inductionHypothesis =>
      obtain ⟨fits, rest⟩ := leads
      rw [Edit.takingBack, List.map_cons, List.reverse_cons]
      refine lead_append.mpr
        ⟨edit.applyTo before, inductionHypothesis rest, fits.inverse, ?_⟩
      exact fits.applyTo_inverse

end Edit

namespace Buffer

@[simp]
theorem applyEdit_text
    (buffer : Buffer)
    (edit : Edit) :
    (buffer.applyEdit edit).text = edit.applyTo buffer.text :=
  rfl

/-- Taking edits back is applying the edits that take them back. -/
theorem revertAll_eq_reapplyAll
    (buffer : Buffer)
    (edits : List Edit) :
    buffer.revertAll edits = buffer.reapplyAll (Edit.takingBack edits) := by
  simp only [revertAll, reapplyAll, Edit.takingBack, List.foldl_reverse,
    List.foldr_map]

@[simp]
theorem reapplyAll_history
    (buffer : Buffer)
    (edits : List Edit) :
    (buffer.reapplyAll edits).history = buffer.history := by
  induction edits generalizing buffer with
  | nil =>
      rfl
  | cons edit edits inductionHypothesis =>
      exact inductionHypothesis (buffer.applyEdit edit)

/-- Replaying edits that fit gives the text they lead to. -/
theorem reapplyAll_text
    {buffer : Buffer}
    {edits : List Edit}
    {after : List Char}
    (leads : Edit.Lead edits buffer.text after) :
    (buffer.reapplyAll edits).text = after := by
  induction edits generalizing buffer with
  | nil =>
      exact leads
  | cons edit edits inductionHypothesis =>
      exact inductionHypothesis leads.2

@[simp]
theorem revertAll_history
    (buffer : Buffer)
    (edits : List Edit) :
    (buffer.revertAll edits).history = buffer.history := by
  rw [revertAll_eq_reapplyAll, reapplyAll_history]

/-- Taking back the edits that led to a text gives the text before them. -/
theorem revertAll_text
    {buffer : Buffer}
    {edits : List Edit}
    {before : List Char}
    (leads : Edit.Lead edits before buffer.text) :
    (buffer.revertAll edits).text = before := by
  rw [revertAll_eq_reapplyAll]
  exact reapplyAll_text leads.takingBack

end Buffer

end ChordEditor
