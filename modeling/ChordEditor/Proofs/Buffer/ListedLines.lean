import ChordEditor.Proofs.Buffer.Newlines
import ChordEditor.Proofs.Text.ChangedLines

namespace ChordEditor

/-!
# Buffers as lists of lines

A text in which no other character ends a line is a list of lines without breaks, joined
by LF.  A change within one line is a change of this list at one place, so what a command
does to a text is said, and proved, line by line (`HasLines`).
-/

namespace Text

variable
  {text line : List Char}
  {own : List (List Char)}

theorem ownLines_of_hasNoBreak (noBreak : HasNoBreak line) : ownLines line = [line] := by
  have whole := withoutReturn_append noBreak []
  rw [List.append_nil] at whole
  rw [ownLines, lines_of_hasNoBreak noBreak, List.map_singleton, whole]
  exact congrArg (fun own => [own]) (List.append_nil line)

/-- A line without breaks that a LF ends. -/
theorem lines_append_newline
    (noBreak : HasNoBreak line)
    (rest : List Char) :
    lines (line ++ '\n' :: rest) = (line ++ ['\n']) :: lines rest := by
  apply lines_append_of_hasNoBreak noBreak
  have ends : endsLine '\n' rest = true := by
    simp [endsLine, isLineBreak]
  rw [lines_cons, if_pos ends]

theorem ownLines_append_newline
    (noBreak : HasNoBreak line)
    (rest : List Char) :
    ownLines (line ++ '\n' :: rest) = line :: ownLines rest := by
  rw [ownLines, lines_append_newline noBreak, List.map_cons, withoutReturn_append noBreak]
  exact congrArg (· :: ownLines rest) (List.append_nil line)

/-- The lines that were joined are those of the text. -/
theorem ownLines_intercalate
    (someLine : own ≠ [])
    (noBreak : ∀ line ∈ own, HasNoBreak line) :
    ownLines (List.intercalate ['\n'] own) = own := by
  induction own with
  | nil =>
      contradiction
  | cons line others inductionHypothesis =>
      obtain ⟨first, rest⟩ := List.forall_mem_cons.mp noBreak
      cases others with
      | nil =>
          rw [List.intercalate_singleton, ownLines_of_hasNoBreak first]
      | cons next more =>
          rw [List.intercalate_cons_cons, List.append_assoc, List.singleton_append,
            ownLines_append_newline first,
            inductionHypothesis (List.cons_ne_nil next more) rest]

/-- A text in which LF alone ends lines is its lines, none of which has a break, joined. -/
theorem BrokenByNewlines.ownLines_joined (onlyNewlines : BrokenByNewlines text) :
    List.intercalate ['\n'] (ownLines text) = text ∧
      ∀ line ∈ ownLines text, HasNoBreak line := by
  induction text with
  | nil =>
      simp [ownLines, lines, withoutReturn]
  | cons c rest inductionHypothesis =>
      obtain ⟨first, others⟩ := List.forall_mem_cons.mp onlyNewlines
      obtain ⟨joined, noBreak⟩ := inductionHypothesis others
      cases isBreak : isLineBreak c with
      | true =>
          obtain rfl := first isBreak
          have ended := ownLines_append_newline hasNoBreak_nil rest
          rw [List.nil_append] at ended
          rw [ended, List.intercalate_cons_of_ne_nil (ownLines_ne_nil rest), joined]
          exact ⟨rfl, List.forall_mem_cons.mpr ⟨hasNoBreak_nil, noBreak⟩⟩
      | false =>
          -- The character goes on the first line of the rest.
          obtain ⟨line, more, shape⟩ := List.exists_cons_of_ne_nil (ownLines_ne_nil rest)
          rw [shape] at joined noBreak
          obtain ⟨lineNoBreak, moreNoBreak⟩ := List.forall_mem_cons.mp noBreak
          have longer : ownLines (c :: rest) = (c :: line) :: more := by
            have notReturn : ¬ (line = [] ∧ isReturn c = true) := by
              simp_all [isLineBreak, isReturn]
            have goesOn : endsLine c rest = false := by
              rw [endsLine_eq_isLineBreak, isBreak]
              rintro later rfl -
              contradiction
            rw [ownLines_cons, goesOn, shape, putInFront]
            simp only [Bool.false_eq_true, if_false, List.modifyHead_cons, if_neg notReturn]
          have front :
              List.intercalate ['\n'] ((c :: line) :: more) =
                c :: List.intercalate ['\n'] (line :: more) := by
            cases more with
            | nil =>
                rfl
            | cons next more =>
                rw [List.intercalate_cons_cons, List.intercalate_cons_cons]
                rfl
          rw [longer, front, joined]
          exact
            ⟨rfl,
              List.forall_mem_cons.mpr
                ⟨(hasNoBreak_cons c line).mpr ⟨isBreak, lineNoBreak⟩, moreNoBreak⟩⟩

/-- A line among others that are joined, between what comes before it and behind it. -/
theorem intercalate_around
    (earlier later : List (List Char))
    (line : List Char) :
    List.intercalate ['\n'] (earlier ++ line :: later) =
      earlier.flatMap (· ++ ['\n']) ++ line ++ later.flatMap ('\n' :: ·) := by
  have behind : List.intercalate ['\n'] (line :: later) = line ++ later.flatMap ('\n' :: ·) := by
    induction later generalizing line with
    | nil =>
        simp
    | cons next later inductionHypothesis =>
        rw [List.intercalate_cons_cons, inductionHypothesis, List.flatMap_cons]
        simp
  induction earlier with
  | nil =>
      exact behind
  | cons first earlier inductionHypothesis =>
      rw [List.cons_append, List.intercalate_cons_of_ne_nil (by simp), inductionHypothesis,
        List.flatMap_cons]
      simp

/-- Joining lines without breaks by LF brings in no other break. -/
theorem brokenByNewlines_intercalate (noBreak : ∀ line ∈ own, HasNoBreak line) :
    BrokenByNewlines (List.intercalate ['\n'] own) := by
  intro c isIn isBreak
  obtain ⟨first, later, rfl⟩ | nothing : (∃ first later, own = first :: later) ∨ own = [] := by
    cases own with
    | nil => exact .inr rfl
    | cons first later => exact .inl ⟨first, later, rfl⟩
  · rw [← List.nil_append (first :: later), intercalate_around] at isIn
    simp only [List.flatMap_nil, List.nil_append, List.mem_append, List.mem_flatMap,
      List.mem_cons] at isIn
    rcases isIn with inFirst | ⟨line, isLater, rfl | inLine⟩
    · rw [noBreak first List.mem_cons_self c inFirst] at isBreak
      contradiction
    · rfl
    · rw [noBreak line (List.mem_cons_of_mem first isLater) c inLine] at isBreak
      contradiction
  · rw [nothing] at isIn
    contradiction

end Text

namespace Buffer

/-- The text of a buffer is some lines without breaks, joined by LF. -/
structure HasLines (buffer : Buffer) (own : List (List Char)) : Prop where
  text : buffer.text = List.intercalate ['\n'] own
  someLine : own ≠ []
  noBreak : ∀ line ∈ own, Text.HasNoBreak line

/-- A buffer in which LF alone ends lines has its lines. -/
theorem hasLines_lineTexts
    {buffer : Buffer}
    (onlyNewlines : Text.BrokenByNewlines buffer.text) :
    buffer.HasLines buffer.lineTexts :=
  { text := onlyNewlines.ownLines_joined.1.symm
    someLine := Text.ownLines_ne_nil buffer.text
    noBreak := onlyNewlines.ownLines_joined.2 }

namespace HasLines

variable
  {buffer changed : Buffer}
  {own earlier later : List (List Char)}
  {line front : List Char}

theorem lineTexts_eq (hasLines : buffer.HasLines own) : buffer.lineTexts = own := by
  have joined := Text.ownLines_intercalate hasLines.someLine hasLines.noBreak
  rwa [← hasLines.text] at joined

theorem lineCount_eq (hasLines : buffer.HasLines own) : buffer.lineCount = own.length := by
  rw [← hasLines.lineTexts_eq, lineTexts, List.length_map]
  rfl

theorem onlyNewlines (hasLines : buffer.HasLines own) : Text.BrokenByNewlines buffer.text := by
  rw [hasLines.text]
  exact Text.brokenByNewlines_intercalate hasLines.noBreak

theorem of_text_eq
    (hasLines : buffer.HasLines own)
    (same : changed.text = buffer.text) :
    changed.HasLines own :=
  { hasLines with text := same.trans hasLines.text }

/-- Two buffers have the same text exactly if they have the same lines. -/
theorem text_eq_iff
    {others : List (List Char)}
    (hasLines : buffer.HasLines own)
    (changedHas : changed.HasLines others) :
    changed.text = buffer.text ↔ others = own := by
  constructor
  · intro same
    rw [← changedHas.lineTexts_eq, (hasLines.of_text_eq same).lineTexts_eq]
  · rintro rfl
    rw [changedHas.text, hasLines.text]

/-- The line of a place is one of the lines. -/
theorem exists_line
    (hasLines : buffer.HasLines own)
    (place : Nat) :
    ∃ earlier line later,
      own = earlier ++ line :: later ∧ earlier.length = buffer.lineOf place := by
  have within := buffer.lineOf_le_lastLine place
  have someLine := List.length_pos_iff.mpr hasLines.someLine
  rw [lastLine, hasLines.lineCount_eq] at within
  obtain ⟨earlier, line, later, shape, isNumber, -⟩ :=
    Text.exists_parts_of_lt (by omega : buffer.lineOf place < own.length)
  exact ⟨earlier, line, later, shape, isNumber⟩

/-- The own text of a line by its number. -/
theorem lineText_eq_getD
    (hasLines : buffer.HasLines own)
    (number : Nat) :
    buffer.lineText number = own.getD number [] := by
  rw [← hasLines.lineTexts_eq, List.getD_eq_getElem?_getD, lineTexts, List.getElem?_map]
  rfl

/-- Lines are counted by their numbers. -/
theorem countP_eq
    (hasLines : buffer.HasLines own)
    (counted : List Char → Bool) :
    own.countP counted =
      (List.range buffer.lineCount).countP fun number => counted (buffer.lineText number) := by
  have listed : own = (List.range buffer.lineCount).map buffer.lineText := by
    rw [hasLines.lineCount_eq]
    apply List.ext_getElem
    · rw [List.length_map, List.length_range]
    · intro number isLine _
      rw [List.getElem_map, List.getElem_range, hasLines.lineText_eq_getD,
        List.getD_eq_getElem?_getD, List.getElem?_eq_getElem isLine, Option.getD_some]
  exact (congrArg (List.countP counted) listed).trans List.countP_map

section Line

variable (hasLines : buffer.HasLines (earlier ++ line :: later))

include hasLines

theorem lineText_eq : buffer.lineText earlier.length = line := by
  rw [hasLines.lineText_eq_getD, List.getD_eq_getElem?_getD]
  simp

theorem lineStart_eq :
    buffer.lineStart earlier.length = (earlier.flatMap (· ++ ['\n'])).length := by
  -- The lines before it, each with its LF, are the first lines of the text.
  have shape : ∃ rest more, Text.lines buffer.text = earlier.map (· ++ ['\n']) ++ rest :: more := by
    rw [hasLines.text]
    have noBreak := hasLines.noBreak
    clear hasLines
    induction earlier with
    | nil =>
        exact List.exists_cons_of_ne_nil (Text.lines_ne_nil _)
    | cons first earlier inductionHypothesis =>
        obtain ⟨firstNoBreak, others⟩ := List.forall_mem_cons.mp noBreak
        obtain ⟨rest, more, shape⟩ := inductionHypothesis others
        refine ⟨rest, more, ?_⟩
        rw [List.cons_append, List.intercalate_cons_of_ne_nil (by simp), List.append_assoc,
          List.singleton_append, Text.lines_append_newline firstNoBreak, shape]
        rfl
  obtain ⟨rest, more, shape⟩ := shape
  have starts := lineStart_of_shape shape
  rwa [List.length_map, ← List.flatMap_def] at starts

theorem lastLine_eq : buffer.lastLine = earlier.length + later.length := by
  rw [lastLine, hasLines.lineCount_eq, List.length_append, List.length_cons]
  rfl

/-- Where one line is put in place of another one, the list of lines is changed there. -/
theorem with_line
    {other : List Char}
    (noBreak : Text.HasNoBreak other)
    (text :
      changed.text = earlier.flatMap (· ++ ['\n']) ++ other ++ later.flatMap ('\n' :: ·)) :
    changed.HasLines (earlier ++ other :: later) := by
  refine ⟨text.trans (Text.intercalate_around earlier later other).symm, by simp, ?_⟩
  have allNoBreak := hasLines.noBreak
  simp only [List.forall_mem_append, List.forall_mem_cons] at allNoBreak ⊢
  exact ⟨allNoBreak.1, noBreak, allNoBreak.2.2⟩

end Line

section Front

variable (hasLines : buffer.HasLines (earlier ++ (front ++ line) :: later))

include hasLines

/-- A line and what it begins with, in the text. -/
theorem text_around_front :
    buffer.text =
      earlier.flatMap (· ++ ['\n']) ++ front ++ (line ++ later.flatMap ('\n' :: ·)) := by
  rw [hasLines.text, Text.intercalate_around]
  simp only [List.append_assoc]

/-- A line begins with another text in place of what it began with. -/
theorem with_front
    {piece : List Char}
    (noBreak : Text.HasNoBreak piece)
    (text :
      changed.text =
        earlier.flatMap (· ++ ['\n']) ++ piece ++ (line ++ later.flatMap ('\n' :: ·))) :
    changed.HasLines (earlier ++ (piece ++ line) :: later) := by
  refine hasLines.with_line ?_ ?_
  · have lineNoBreak := hasLines.noBreak (front ++ line) (by simp)
    intro c isIn
    rcases List.mem_append.mp isIn with inPiece | inLine
    · exact noBreak c inPiece
    · exact lineNoBreak c (List.mem_append_right front inLine)
  · rw [text]
    simp only [List.append_assoc]

/-- What a line begins with gives way to another text. -/
theorem exists_replaced_front
    {piece : List Char}
    (noBreak : Text.HasNoBreak piece) :
    ∃ changed,
      buffer.replace (buffer.lineStart earlier.length)
          (buffer.lineStart earlier.length + front.length) piece = .ok (front, changed) ∧
        changed.HasLines (earlier ++ (piece ++ line) :: later) := by
  obtain ⟨changed, replaced, text⟩ := exists_replaced_part hasLines.text_around_front piece
  rw [hasLines.lineStart_eq]
  exact ⟨changed, replaced, hasLines.with_front noBreak text⟩

/-- What a line begins with is deleted. -/
theorem exists_deleted_front :
    ∃ changed,
      buffer.delete (buffer.lineStart earlier.length)
          (buffer.lineStart earlier.length + front.length) = .ok (front, changed) ∧
        changed.HasLines (earlier ++ line :: later) := by
  obtain ⟨_, replaced, _⟩ := hasLines.exists_replaced_front Text.hasNoBreak_nil
  obtain ⟨changed, deleted, _⟩ := replace_eq_ok replaced
  refine ⟨changed, deleted, hasLines.with_front Text.hasNoBreak_nil ?_⟩
  rw [text_of_delete deleted, hasLines.lineStart_eq, hasLines.text_around_front,
    ← List.length_append, List.drop_left, List.append_assoc, List.take_left, List.append_nil]

end Front

/-- A text is inserted in front of a line. -/
theorem exists_inserted_front
    (hasLines : buffer.HasLines (earlier ++ line :: later))
    {piece : List Char}
    (noBreak : Text.HasNoBreak piece) :
    ∃ changed,
      buffer.insert (buffer.lineStart earlier.length) piece = .ok changed ∧
        changed.HasLines (earlier ++ (piece ++ line) :: later) := by
  have hasFront : buffer.HasLines (earlier ++ ([] ++ line) :: later) := hasLines
  obtain ⟨changed, inserted⟩ :=
    insert_accepted_iff.mpr (buffer.lineStart_le earlier.length)
  refine ⟨changed, inserted, hasFront.with_front noBreak ?_⟩
  have text := hasFront.text_around_front
  rw [List.append_nil] at text
  rw [text_of_insert inserted, hasLines.lineStart_eq, text, List.take_left, List.drop_left]

end HasLines

end Buffer

end ChordEditor
