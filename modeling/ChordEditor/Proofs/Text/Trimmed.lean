import ChordEditor.Proofs.Text.Cuts
import Mathlib.Data.List.DropRight

namespace ChordEditor.Text

/-!
# Texts without blanks at their edges

Trimming takes blanks alone, so nothing else is lost, and two texts that are trimmed where
they meet are trimmed as one text by trimming each.
-/

variable {first second text : List Char}

/-- The characters of a text that are not blank. -/
def notBlankChars (text : List Char) : List Char :=
  text.filter fun c => !isBlank c

section Edges

theorem trimStart_eq_nil_iff : trimStart text = [] ↔ isBlankText text = true :=
  List.dropWhile_eq_nil_iff.trans List.all_eq_true.symm

theorem trimEnd_eq_nil_iff : trimEnd text = [] ↔ isBlankText text = true :=
  List.rdropWhile_eq_nil_iff.trans List.all_eq_true.symm

theorem trimStart_trimStart (text : List Char) : trimStart (trimStart text) = trimStart text :=
  List.dropWhile_idempotent _ _

theorem trimEnd_trimEnd (text : List Char) : trimEnd (trimEnd text) = trimEnd text :=
  List.rdropWhile_idempotent _ _

theorem trimStart_append (someText : ¬ isBlankText first = true) (second : List Char) :
    trimStart (first ++ second) = trimStart first ++ second := by
  have someLeft : ¬ (first.dropWhile isBlank).isEmpty = true := by
    rwa [List.isEmpty_iff, ← trimStart, trimStart_eq_nil_iff]
  rw [trimStart, List.dropWhile_append, if_neg someLeft]
  rfl

theorem trimEnd_append (someText : ¬ isBlankText second = true) (first : List Char) :
    trimEnd (first ++ second) = first ++ trimEnd second := by
  have someTextReversed : ¬ isBlankText second.reverse = true := by
    rwa [isBlankText, List.all_reverse]
  have trimmed := trimStart_append someTextReversed first.reverse
  unfold trimStart at trimmed
  rw [trimEnd, List.reverse_append, trimmed, List.reverse_append, List.reverse_reverse]
  rfl

/-- A text that begins with a character that is not blank is not trimmed at its start. -/
theorem trimStart_of_not_blank
    {c : Char}
    (notBlank : ¬ isBlank c = true)
    (rest : List Char) :
    trimStart (c :: rest) = c :: rest :=
  List.dropWhile_cons_of_neg notBlank

/-- It does not matter which edge is trimmed first. -/
theorem trimStart_trimEnd (text : List Char) : trimStart (trimEnd text) = trim text := by
  induction text with
  | nil =>
      rfl
  | cons c rest inductionHypothesis =>
      by_cases blank : isBlank c = true
      · have passes (text : List Char) : trimStart (c :: text) = trimStart text :=
          List.dropWhile_cons_of_pos blank
        by_cases allBlank : isBlankText rest = true
        · have nothing : isBlankText (c :: rest) = true := by
            rw [isBlankText, List.all_cons, blank]
            exact allBlank
          rw [trim, trimEnd_eq_nil_iff.mpr nothing, trimStart_eq_nil_iff.mpr nothing]
          rfl
        · have kept := trimEnd_append allBlank [c]
          rw [List.singleton_append, List.singleton_append] at kept
          rw [kept, passes, inductionHypothesis, trim, trim, passes]
      · have someText : trimEnd (c :: rest) ≠ [] := by
          rw [Ne, trimEnd_eq_nil_iff, isBlankText, List.all_cons, Bool.and_eq_true]
          exact fun allBlank => blank allBlank.1
        obtain isNil | ⟨kept, isKept, -⟩ :=
          List.prefix_cons_iff.mp (List.rdropWhile_prefix isBlank (c :: rest))
        · exact absurd isNil someText
        · have begins : trimEnd (c :: rest) = c :: kept := isKept
          rw [trim, trimStart_of_not_blank blank, begins, trimStart_of_not_blank blank]

theorem trim_trimStart (text : List Char) : trim (trimStart text) = trim text := by
  rw [trim, trimStart_trimStart, trim]

theorem trim_trimEnd (text : List Char) : trim (trimEnd text) = trim text := by
  rw [← trimStart_trimEnd, trimEnd_trimEnd, trimStart_trimEnd]

theorem isBlankText_trimStart (text : List Char) :
    isBlankText (trimStart text) = isBlankText text := by
  rw [Bool.eq_iff_iff, ← trimStart_eq_nil_iff, trimStart_trimStart, trimStart_eq_nil_iff]

theorem isBlankText_trimEnd (text : List Char) :
    isBlankText (trimEnd text) = isBlankText text := by
  rw [Bool.eq_iff_iff, ← trimEnd_eq_nil_iff, trimEnd_trimEnd, trimEnd_eq_nil_iff]

theorem trim_eq_nil_iff : trim text = [] ↔ isBlankText text = true := by
  rw [trim, trimEnd_eq_nil_iff, isBlankText_trimStart]

end Edges

section NotBlank

theorem notBlankChars_append (first second : List Char) :
    notBlankChars (first ++ second) = notBlankChars first ++ notBlankChars second :=
  List.filter_append first second

theorem notBlankChars_eq_nil (blank : isBlankText text = true) : notBlankChars text = [] := by
  apply List.filter_eq_nil_iff.mpr
  intro c isIn
  simp [List.all_eq_true.mp blank c isIn]

theorem notBlankChars_trimStart (text : List Char) :
    notBlankChars (trimStart text) = notBlankChars text := by
  have blank : isBlankText (leadingBlank text) = true := List.all_takeWhile
  conv_rhs => rw [← leadingBlank_append_trimStart text]
  rw [notBlankChars_append, notBlankChars_eq_nil blank, List.nil_append]

theorem notBlankChars_trimEnd (text : List Char) :
    notBlankChars (trimEnd text) = notBlankChars text := by
  have trimmed := notBlankChars_trimStart text.reverse
  unfold notBlankChars at trimmed ⊢
  rw [List.filter_reverse] at trimmed
  rw [trimEnd, List.filter_reverse, ← trimStart, trimmed, List.reverse_reverse]

end NotBlank

section Joined

/--
Two lines made one: blanks at the seam become one space, or nothing if one of the two
is blank.
-/
def joined (first second : List Char) : List Char :=
  trimEnd first ++ (if isBlankText first ∨ isBlankText second then [] else [' ']) ++
    trimStart second

/-- What some lines hold between blanks, where that is anything. -/
def contents (own : List (List Char)) : List (List Char) :=
  (own.map trim).filter (· ≠ [])

theorem notBlankChars_joined (first second : List Char) :
    notBlankChars (joined first second) = notBlankChars first ++ notBlankChars second := by
  have seam :
      notBlankChars (if isBlankText first ∨ isBlankText second then [] else [' ']) = [] := by
    split <;> rfl
  rw [joined, notBlankChars_append, notBlankChars_append, seam, List.append_nil,
    notBlankChars_trimEnd, notBlankChars_trimStart]

/-- Lines that are joined one after the other keep their characters, but for blanks. -/
theorem notBlankChars_foldl_joined
    (line : List Char)
    (others : List (List Char)) :
    notBlankChars (others.foldl joined line) =
      notBlankChars line ++ others.flatMap notBlankChars := by
  induction others generalizing line with
  | nil =>
      exact (List.append_nil _).symm
  | cons next others inductionHypothesis =>
      rw [List.foldl_cons, inductionHypothesis, notBlankChars_joined, List.flatMap_cons,
        List.append_assoc]

theorem trim_joined_of_blank_left (blank : isBlankText first = true) (second : List Char) :
    trim (joined first second) = trim second := by
  rw [joined, if_pos (.inl blank), trimEnd_eq_nil_iff.mpr blank, List.append_nil,
    List.nil_append, trim_trimStart]

theorem trim_joined_of_blank_right (blank : isBlankText second = true) (first : List Char) :
    trim (joined first second) = trim first := by
  rw [joined, if_pos (.inr blank), trimStart_eq_nil_iff.mpr blank, List.append_nil,
    List.append_nil, trim_trimEnd]

/-- One space is between what two lines hold that are not blank. -/
theorem trim_joined
    (someFirst : ¬ isBlankText first = true)
    (someSecond : ¬ isBlankText second = true) :
    trim (joined first second) = trim first ++ ' ' :: trim second := by
  have someEnd : ¬ isBlankText (trimEnd first) = true := by
    rwa [isBlankText_trimEnd]
  have someStart : ¬ isBlankText (trimStart second) = true := by
    rwa [isBlankText_trimStart]
  rw [joined, if_neg (not_or.mpr ⟨someFirst, someSecond⟩), List.append_assoc, trim,
    trimStart_append someEnd, trimStart_trimEnd, ← List.append_assoc,
    trimEnd_append someStart, List.append_assoc]
  rfl

theorem contents_cons_of_blank (blank : isBlankText text = true) (own : List (List Char)) :
    contents (text :: own) = contents own := by
  rw [contents, List.map_cons, trim_eq_nil_iff.mpr blank]
  rfl

theorem contents_cons (someText : ¬ isBlankText text = true) (own : List (List Char)) :
    contents (text :: own) = trim text :: contents own := by
  have isThere : trim text ≠ [] := by
    rwa [Ne, trim_eq_nil_iff]
  rw [contents, List.map_cons, List.filter_cons_of_pos (by simpa using isThere)]
  rfl

theorem contents_cons_congr
    (same : trim first = trim second)
    (own : List (List Char)) :
    contents (first :: own) = contents (second :: own) := by
  rw [contents, List.map_cons, same]
  rfl

/-- Two texts that are separated are one of the texts that are. -/
theorem intercalate_space_joined
    (first second : List Char)
    (others : List (List Char)) :
    List.intercalate [' '] ((first ++ ' ' :: second) :: others) =
      List.intercalate [' '] (first :: second :: others) := by
  rw [List.intercalate_cons_cons]
  cases others with
  | nil =>
      simp
  | cons next others =>
      rw [List.intercalate_cons_cons, List.intercalate_cons_cons]
      simp

/-- What lines hold that are joined one after the other is separated by single spaces. -/
theorem trim_foldl_joined
    (line : List Char)
    (others : List (List Char)) :
    trim (others.foldl joined line) = List.intercalate [' '] (contents (line :: others)) := by
  induction others generalizing line with
  | nil =>
      by_cases blank : isBlankText line = true
      · rw [contents_cons_of_blank blank]
        exact trim_eq_nil_iff.mpr blank
      · rw [contents_cons blank]
        exact (List.intercalate_singleton).symm
  | cons next others inductionHypothesis =>
      rw [List.foldl_cons, inductionHypothesis]
      by_cases blank : isBlankText line = true
      · rw [contents_cons_congr (trim_joined_of_blank_left blank next),
          contents_cons_of_blank blank]
      · by_cases nextBlank : isBlankText next = true
        · rw [contents_cons_congr (trim_joined_of_blank_right nextBlank line),
            contents_cons blank, contents_cons blank, contents_cons_of_blank nextBlank]
        · have seam := trim_joined blank nextBlank
          have someText : ¬ isBlankText (joined line next) = true := by
            rw [← trim_eq_nil_iff, seam]
            simp
          rw [contents_cons someText, seam, contents_cons blank, contents_cons nextBlank,
            intercalate_space_joined]

theorem hasNoBreak_joined
    (firstNoBreak : HasNoBreak first)
    (secondNoBreak : HasNoBreak second) :
    HasNoBreak (joined first second) := by
  intro c isIn
  rw [joined, List.mem_append, List.mem_append] at isIn
  rcases isIn with (inFirst | atSeam) | inSecond
  · exact firstNoBreak c ((List.rdropWhile_prefix isBlank first).mem inFirst)
  · split at atSeam
    · cases atSeam
    · rw [List.mem_singleton.mp atSeam]
      rfl
  · exact secondNoBreak c ((List.dropWhile_suffix isBlank).mem inSecond)

end Joined

end ChordEditor.Text
