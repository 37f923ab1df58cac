import ChordEditor.Definition.Lookup
import ChordEditor.Proofs.Text.Cuts

namespace ChordEditor

/-!
# Rows and lines

Rows are ended by LF, lines by any break, so there are at least as many lines before a
place as rows.  There are as many exactly if every break before it ends with LF, and then
the place is as far behind the last LF as behind the last break.

The location of a point counts characters of its row again, and the bytes before a place
are whole characters.  So the column is the number of characters behind the last LF.
-/

namespace Text

/-- Whole characters are counted back from their bytes. -/
theorem charsIn?_byteLength (front rest : List Char) :
    charsIn? (byteLength front) (front ++ rest) = some front.length := by
  induction front with
  | nil =>
      cases rest <;> rfl
  | cons c front inductionHypothesis =>
      have someBytes := c.utf8Size_pos
      have bytes : byteLength (c :: front) = c.utf8Size + byteLength front := rfl
      cases counted : byteLength (c :: front) with
      | zero =>
          omega
      | succ count =>
          have left : count + 1 - c.utf8Size = byteLength front := by
            omega
          rw [List.cons_append, charsIn?, if_pos (by omega), left, inductionHypothesis]
          rfl

/-- All of a text comes before its first LF exactly if it has none. -/
theorem takeWhile_newline_eq_iff (text : List Char) :
    text.takeWhile (· != '\n') = text ↔ text.count '\n' = 0 := by
  induction text with
  | nil =>
      simp
  | cons c rest inductionHypothesis =>
      by_cases isNewline : c = '\n' <;> simp [isNewline, inductionHypothesis]

/-- A character goes on the row of what is behind it if there is no LF among both. -/
theorem openRow_cons
    (c : Char)
    (rest : List Char) :
    openRow (c :: rest) =
      if c ≠ '\n' ∧ rest.count '\n' = 0 then c :: openRow rest else openRow rest := by
  have whole := takeWhile_newline_eq_iff rest.reverse
  rw [List.count_reverse] at whole
  unfold openRow
  rw [List.reverse_cons, List.takeWhile_append]
  by_cases noNewline : rest.count '\n' = 0
  · rw [whole.mpr noNewline, if_pos rfl]
    by_cases isNewline : c = '\n' <;> simp [isNewline, noNewline]
  · have notWhole :
        (rest.reverse.takeWhile (· != '\n')).length ≠ rest.reverse.length :=
      fun same => noNewline (whole.mp ((List.takeWhile_prefix _).eq_of_length same))
    rw [if_neg notWhole, if_neg (fun both => noNewline both.2)]

/-- The rows of a text, by its first character. -/
theorem rows_cons
    (c : Char)
    (rest : List Char) :
    rows (c :: rest) =
      if c = '\n' then
        [] :: rows rest
      else if c = '\r' ∧ rest.head? = some '\n' then
        rows rest
      else
        (c :: (rows rest).headD []) :: (rows rest).tail := by
  by_cases isNewline : c = '\n'
  · subst isNewline
    rw [if_pos rfl, rows]
  · rw [if_neg isNewline]
    split
    · rename_i crlf
      obtain ⟨later, rfl⟩ := List.head?_eq_some_iff.mp crlf.2
      rw [crlf.1, rows, rows]
    · rename_i notCrlf
      rw [rows.eq_4 c rest isNewline]
      · cases rows rest <;> rfl
      · rintro later isReturn rfl
        exact notCrlf ⟨isReturn, rfl⟩

theorem rows_ne_nil
    (c : Char)
    (rest : List Char) :
    rows (c :: rest) ≠ [] := by
  rw [rows_cons]
  split
  · exact List.cons_ne_nil _ _
  · split
    · rename_i crlf
      obtain ⟨later, rfl⟩ := List.head?_eq_some_iff.mp crlf.2
      rw [rows]
      exact List.cons_ne_nil _ _
    · exact List.cons_ne_nil _ _

/-- A row that goes on behind a cut begins with what the text before it has behind its last LF. -/
theorem rows_append
    (before after : List Char)
    {c : Char}
    (goesOn : c ≠ '\n') :
    ∃ rest,
      (rows (before ++ c :: after))[before.count '\n']? = some (openRow before ++ rest) := by
  induction before with
  | nil =>
      obtain ⟨row, others, shape⟩ := List.exists_cons_of_ne_nil (rows_ne_nil c after)
      refine ⟨row, ?_⟩
      rw [List.nil_append, shape]
      rfl
  | cons d before inductionHypothesis =>
      obtain ⟨rest, found⟩ := inductionHypothesis
      refine ⟨rest, ?_⟩
      rw [List.cons_append, rows_cons, openRow_cons]
      by_cases isNewline : d = '\n'
      · simp [isNewline, found]
      · rw [if_neg isNewline, List.count_cons_of_ne isNewline]
        split
        · rename_i crlf
          have hasNewline : before.count '\n' ≠ 0 := by
            cases before with
            | nil =>
                exact absurd (Option.some.inj crlf.2) goesOn
            | cons next later =>
                rw [Option.some.inj crlf.2, List.count_cons_self]
                exact Nat.succ_ne_zero _
          rw [if_neg (fun both => hasNewline both.2)]
          exact found
        · cases shape : rows (before ++ c :: after) with
          | nil =>
              rw [shape] at found
              contradiction
          | cons row others =>
              rw [shape] at found
              cases counted : before.count '\n' with
              | zero =>
                  rw [counted] at found
                  rw [if_pos ⟨isNewline, rfl⟩]
                  exact congrArg (Option.map (d :: ·)) found
              | succ count =>
                  rw [counted] at found
                  rw [if_neg (fun both => Nat.succ_ne_zero _ both.2)]
                  exact found

/-- Every break of a text ends with LF. -/
def OnlyNewlines (text : List Char) : Prop :=
  breakCount text = text.count '\n'

theorem count_newline_le_breakCount (text : List Char) :
    text.count '\n' ≤ breakCount text := by
  induction text with
  | nil =>
      exact Nat.le_refl _
  | cons c rest inductionHypothesis =>
      rw [breakCount_cons]
      by_cases isNewline : c = '\n'
      · subst isNewline
        have ends : endsLine '\n' rest = true := by
          simp [endsLine, isLineBreak]
        rw [List.count_cons_self, ends]
        exact Nat.succ_le_succ inductionHypothesis
      · rw [List.count_cons_of_ne isNewline]
        exact Nat.le_add_right_of_le inductionHypothesis

/-- Only LF ends lines if the first character, and all behind it, end lines as LFs alone. -/
theorem onlyNewlines_cons
    (c : Char)
    (rest : List Char) :
    OnlyNewlines (c :: rest) ↔ OnlyNewlines rest ∧ endsLine c rest = (c == '\n') := by
  have rowsAreFewer := count_newline_le_breakCount rest
  unfold OnlyNewlines
  rw [breakCount_cons, List.count_cons]
  by_cases isNewline : c = '\n'
  · subst isNewline
    have ends : endsLine '\n' rest = true := by
      simp [endsLine, isLineBreak]
    simp [ends]
  · cases ends : endsLine c rest with
    | false =>
        simp [isNewline]
    | true =>
        simp [isNewline]
        omega

/-- Where only LF ends lines, what is behind the last LF is behind the last break. -/
theorem OnlyNewlines.openRow_eq
    {text : List Char}
    (onlyNewlines : OnlyNewlines text) :
    openRow text = openLine text := by
  induction text with
  | nil =>
      rfl
  | cons c rest inductionHypothesis =>
      obtain ⟨restOnly, ends⟩ := (onlyNewlines_cons c rest).mp onlyNewlines
      have ended : endedLines rest = [] ↔ rest.count '\n' = 0 := by
        rw [← List.length_eq_zero_iff, length_endedLines, restOnly]
      rw [openRow_cons, openLine_cons, inductionHypothesis restOnly]
      simp only [ends, ended, ne_eq, beq_eq_false_iff_ne]

/-- A line that a break has ended has that break at least. -/
theorem ne_nil_of_mem_endedLines
    {text line : List Char}
    (isEnded : line ∈ endedLines text) :
    line ≠ [] := by
  induction text generalizing line with
  | nil =>
      contradiction
  | cons c rest inductionHypothesis =>
      rw [endedLines_cons] at isEnded
      split at isEnded
      · rcases List.mem_cons.mp isEnded with rfl | isLater
        · exact List.cons_ne_nil _ _
        · exact inductionHypothesis isLater
      · cases shape : endedLines rest with
        | nil =>
            rw [shape] at isEnded
            contradiction
        | cons first others =>
            rw [shape] at isEnded inductionHypothesis
            rcases List.mem_cons.mp isEnded with rfl | isLater
            · exact List.cons_ne_nil _ _
            · exact inductionHypothesis (List.mem_cons_of_mem first isLater)

/-- All breaks of a text end with LF, but for the last character: a break that is no LF or CR. -/
def EndsWithOtherBreak (text : List Char) : Prop :=
  ∃ front c,
    text = front ++ [c] ∧ OnlyNewlines front ∧ isLineBreak c = true ∧ isReturn c = false

section LastCharacter

variable {c : Char} (notNewline : c ≠ '\n') (front : List Char)

include notNewline

theorem joinsBreak_singleton : joinsBreak front [c] = false := by
  simp [joinsBreak, notNewline]

/-- A last character that is no LF belongs to the last row. -/
theorem openRow_concat : openRow (front ++ [c]) = openRow front ++ [c] := by
  simp [openRow, notNewline]

/-- A last character that is no LF ends the line that was open if it is a break. -/
theorem lines_concat :
    endedLines (front ++ [c]) =
        (if isLineBreak c then endedLines front ++ [openLine front ++ [c]]
        else endedLines front) ∧
      openLine (front ++ [c]) = if isLineBreak c then [] else openLine front ++ [c] := by
  have ends : endsLine c [] = isLineBreak c := by
    simp [endsLine]
  have shape := lines_append (joinsBreak_singleton notNewline front)
  rw [lines_cons, ends, lines_eq] at shape
  cases isBreak : isLineBreak c with
  | true =>
      have parts :
          endedLines (front ++ [c]) ++ [openLine (front ++ [c])] =
            (endedLines front ++ [openLine front ++ [c]]) ++ [[]] := by
        rw [shape, isBreak, List.append_assoc]
        rfl
      obtain ⟨ended, isOpen⟩ := List.append_inj' parts rfl
      exact ⟨ended, List.singleton_inj.mp isOpen⟩
  | false =>
      have parts :
          endedLines (front ++ [c]) ++ [openLine (front ++ [c])] =
            endedLines front ++ [openLine front ++ [c]] := by
        rw [shape, isBreak]
        rfl
      obtain ⟨ended, isOpen⟩ := List.append_inj' parts rfl
      exact ⟨ended, List.singleton_inj.mp isOpen⟩

end LastCharacter

/-- A last line that a break other than LF or CR has ended, behind as many lines as rows. -/
theorem endsWithOtherBreak_of_parts
    {text line : List Char}
    {ended : List (List Char)}
    (parts : endedLines text = ended ++ [line])
    (isOpen : openLine text = [])
    (someRow : openRow text ≠ [])
    (asManyRows : ended.length = text.count '\n')
    (keepsBreak : (withoutReturn line).length = line.length) :
    EndsWithOtherBreak text := by
  rcases List.eq_nil_or_concat text with rfl | ⟨front, c, isFront⟩
  · exact absurd rfl someRow
  · rw [List.concat_eq_append] at isFront
    subst isFront
    have notNewline : c ≠ '\n' := by
      rintro rfl
      simp [openRow] at someRow
    obtain ⟨endedHere, openHere⟩ := lines_concat notNewline front
    have isBreak : isLineBreak c = true := by
      rw [isOpen] at openHere
      by_cases isBreak : isLineBreak c = true
      · exact isBreak
      · rw [if_neg isBreak] at openHere
        exact absurd openHere.symm
          (List.append_ne_nil_of_right_ne_nil _ (List.cons_ne_nil c []))
    rw [if_pos isBreak, parts] at endedHere
    obtain ⟨sameEnded, sameLine⟩ := List.append_inj' endedHere rfl
    have noReturn : isReturn c = false := by
      rw [List.singleton_inj.mp sameLine, withoutReturn_append (openLine_hasNoBreak front)]
        at keepsBreak
      cases isReturn : isReturn c with
      | false =>
          rfl
      | true =>
          simp [withoutReturn, isReturn] at keepsBreak
    have onlyNewlines : OnlyNewlines front := by
      unfold OnlyNewlines
      rw [← length_endedLines, ← sameEnded, asManyRows, List.count_append,
        List.count_singleton]
      simp [notNewline]
    exact ⟨front, c, rfl, onlyNewlines, isBreak, noReturn⟩

end Text

/-- A point in a row that goes on is located by its row and the characters before it there. -/
theorem Location.ofPoint_ofPlace
    (before after : List Char)
    {c : Char}
    (goesOn : c ≠ '\n') :
    Location.ofPoint (before ++ c :: after)
        (Point.ofPlace (before ++ c :: after) before.length) =
      ⟨before.count '\n', (Text.openRow before).length⟩ := by
  obtain ⟨rest, found⟩ := Text.rows_append before after goesOn
  unfold Location.ofPoint Point.ofPlace
  rw [List.take_left]
  dsimp only
  rw [found, Option.getD_some, Text.charsIn?_byteLength, Option.getD_some]

end ChordEditor
