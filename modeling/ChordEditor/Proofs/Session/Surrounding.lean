import ChordEditor.Proofs.Commands.Surrounding
import ChordEditor.Proofs.Session.DeleteThenPaste

namespace ChordEditor.Editor

/-!
# Delimiters put around a word and deleted again

Deleting delimiters takes back what putting them around a word has done, where the scan to
the left does not begin on the closing one.  Behind a word the closing delimiter comes under
the cursor, and one that looks the same on both sides is taken for the left one there.
-/

variable
  {editor surrounded : Editor}
  {surrounding deleting : Operation}
  {context deleteContext : CommandContext}
  {c : Char}
  {before front behind after : List Char}
  {span : Span}

/-- A word gets its delimiters, and the cursor is seen where it was in the word. -/
theorem run_surrounds
    (word : editor.AtWord before front behind after)
    (surrounds : surrounding.actionOn? editor = some (.surround, context))
    (isDelimiter : context.literals[0]? = some c) :
    (surrounding.run editor).StandsBetween (before ++ (Commands.delimiters c).1 :: front)
      (behind ++ (Commands.delimiters c).2 :: after) := by
  have accepted (dispatcher : Dispatcher) :
      (Commands.runAction .surround context).LeavesBetween (editor.asked dispatcher .surround)
        (before ++ (Commands.delimiters c).1 :: front)
        (behind ++ (Commands.delimiters c).2 :: after) := by
    have askedWord : (editor.asked dispatcher .surround).AtWord before front behind after :=
      ⟨⟨word.stands.text, word.stands.position⟩, word.isSpan, word.someChar, word.wordChars⟩
    exact Commands.surroundWord_leaves askedWord isDelimiter rfl
  obtain ⟨left, stands, seen⟩ := run_of_accepted surrounds accepted
  refine ⟨seen.text.trans stands.text, ?_⟩
  rw [seen.position, Buffer.clamp_of_le stands.inText, stands.position]

/-- What the deletion of delimiters leaves of a text is seen. -/
theorem run_deletes_surround
    (holds : List Char → Prop)
    (deletes : deleting.actionOn? editor = some (.deleteSurround, deleteContext))
    (stands : editor.StandsBetween before after)
    (leaves :
      ∀ asked : Editor,
        asked.StandsBetween before after →
          ∃ last,
            (Commands.deleteSurround deleteContext).runOn asked = (.ok (), last) ∧
              holds last.buffer.text) :
    holds (deleting.run editor).buffer.text := by
  have accepted (dispatcher : Dispatcher) :
      ∃ left,
        (Commands.runAction .deleteSurround deleteContext).runOn
            (editor.asked dispatcher .deleteSurround) = (.ok (), left) ∧
          holds left.buffer.text :=
    leaves _ ⟨stands.text, stands.position⟩
  obtain ⟨left, held, seen⟩ := run_of_accepted deletes accepted
  rw [seen.text]
  exact held

section Deleted

variable
  (word : editor.AtWord before front behind after)
  (notWordChar : Text.isWordChar c = false)
  (stands :
    surrounded.StandsBetween (before ++ (Commands.delimiters c).1 :: front)
      (behind ++ (Commands.delimiters c).2 :: after))
  (deletes : deleting.actionOn? surrounded = some (.deleteSurround, deleteContext))
  (isDelimiter : deleteContext.literals[0]? = some c)

include word notWordChar stands deletes isDelimiter

/-- Delimiters in the line of a word are deleted, if the right one is not taken for the left. -/
theorem run_restores
    (notBreak : Text.isLineBreak c = false)
    (apart : (Commands.delimiters c).1 ≠ (Commands.delimiters c).2 ∨ behind ≠ []) :
    (deleting.run surrounded).buffer.text = editor.buffer.text := by
  obtain ⟨openingOther, closingOther⟩ := Commands.isWordChar_delimiters c
  obtain ⟨openingPlain, closingPlain⟩ := Commands.isLineBreak_delimiters c
  rw [notWordChar] at openingOther closingOther
  rw [notBreak] at openingPlain closingPlain
  have isOther :
      ∀ other ∈ front ++ behind,
        other ≠ (Commands.delimiters c).1 ∧ other ≠ (Commands.delimiters c).2 := fun _ isIn =>
    ⟨word.ne_of_isWordChar_eq_false isIn openingOther,
      word.ne_of_isWordChar_eq_false isIn closingOther⟩
  have frontNoBreak : Text.HasNoBreak ((Commands.delimiters c).1 :: front) :=
    (Text.hasNoBreak_cons _ _).mpr ⟨openingPlain, word.front_hasNoBreak⟩
  have behindNoBreak : Text.HasNoBreak (behind ++ [(Commands.delimiters c).2]) :=
    word.behind_hasNoBreak.append
      ((Text.hasNoBreak_cons _ _).mpr ⟨closingPlain, Text.hasNoBreak_nil⟩)
  rw [word.text_eq]
  apply run_deletes_surround (· = before ++ (front ++ behind) ++ after) deletes stands
  intro asked askedStands
  exact Commands.deleteSurround_restores askedStands isDelimiter rfl
    (Commands.enclosingPair?_around askedStands frontNoBreak behindNoBreak isOther apart)

/-- A mark that is not found on the left, or is found on the right, is not deleted. -/
theorem run_keeps_left
    (same : (Commands.delimiters c).1 = (Commands.delimiters c).2)
    (misses : Text.isLineBreak c = true ∨ behind = []) :
    (deleting.run surrounded).buffer.text ≠ editor.buffer.text := by
  have twice := Commands.delimiters_of_same same
  rw [twice] at stands
  have left : (deleting.run surrounded).buffer.text[before.length]? = some c := by
    apply run_deletes_surround (·[before.length]? = some c) deletes stands
    intro asked askedStands
    exact Commands.deleteSurround_keeps_left askedStands isDelimiter twice misses
  obtain ⟨first, others, shape⟩ := List.exists_cons_of_ne_nil word.someChar
  have original : editor.buffer.text[before.length]? = some first := by
    rw [word.text_eq, shape, List.append_assoc]
    simp
  have isIn : first ∈ front ++ behind := by
    rw [shape]
    exact List.mem_cons_self
  intro restored
  rw [restored, original] at left
  exact word.ne_of_isWordChar_eq_false isIn notWordChar (Option.some.inj left)

end Deleted

/--
A word at the cursor gets its delimiters, and the cursor keeps its place.  Deleting the
delimiters there restores the text exactly if they end no line and if they are brackets or
the cursor is on the word, and not right behind it.
-/
theorem surround_taken_back_iff
    (notWordChar : Text.isWordChar c = false)
    (isWord : editor.buffer.wordSpan? editor.position = some span)
    (surrounds : surrounding.actionOn? editor = some (.surround, context))
    (isDelimiter : context.literals[0]? = some c)
    (deletes :
      deleting.actionOn? (surrounding.run editor) = some (.deleteSurround, deleteContext))
    (isSame : deleteContext.literals[0]? = some c) :
    let text := editor.buffer.text
    let pair := Commands.delimiters c
    let surrounded := surrounding.run editor
    let restored := deleting.run surrounded
    (surrounded.buffer.text =
          text.take span.start ++
            pair.1 :: (editor.buffer.spanText span ++ pair.2 :: text.drop span.stop) ∧
        surrounded.position = editor.position + 1) ∧
      (restored.buffer.text = text ↔
        Text.isLineBreak c = false ∧
          (pair.1 ≠ pair.2 ∨ Buffer.hasWordCharAt text editor.position = true)) := by
  intro text pair surrounded restored
  obtain ⟨front, behind, word, parts, onWord⟩ := exists_atWord isWord
  have stands := run_surrounds word surrounds isDelimiter
  change surrounded.StandsBetween _ _ at stands
  refine ⟨⟨?_, ?_⟩, ?_, ?_⟩
  · rw [stands.text, ← parts]
    simp [pair, text]
  · rw [stands.position, word.stands.position, List.length_append, List.length_append,
      List.length_cons, Nat.add_assoc]
  · intro isRestored
    by_cases same : pair.1 = pair.2
    · have misses := run_keeps_left word notWordChar stands deletes isSame same
      constructor
      · rw [Bool.eq_false_iff]
        exact fun isBreak => misses (.inl isBreak) isRestored
      · exact .inr (onWord.mp fun noneBehind => misses (.inr noneBehind) isRestored)
    · exact ⟨Commands.isLineBreak_of_differ same, .inl same⟩
  · rintro ⟨notBreak, apart⟩
    exact run_restores word notWordChar stands deletes isSame notBreak
      (apart.imp_right onWord.mpr)

/-- Behind a word, quotes are put around it, and they are not taken back. -/
theorem quotes_before_cursor_stay :
    let editor := (demo "ab cd".toList).afterAll [.execute (.move .right) { count := 2 }]
    let surrounded := (Operation.execute .surround { literals := ['"'] }).run editor
    let after := (Operation.execute .deleteSurround { literals := ['"'] }).run surrounded
    surrounded.buffer.text = "\"ab\" cd".toList ∧
      surrounded.position = 3 ∧ after.buffer.text ≠ "ab cd".toList := by
  intro editor
  dsimp only
  have text : editor.buffer.text = "ab cd".toList := by
    decide +kernel
  have place : editor.position = 2 := by
    decide +kernel
  have isWord : editor.buffer.wordSpan? editor.position = some ⟨0, 2⟩ := by
    decide +kernel
  have spelled : editor.buffer.spanText ⟨0, 2⟩ = "ab".toList := by
    decide +kernel
  have runs (action : Action) := Operation.actionOn?_execute action { literals := ['"'] }
  obtain ⟨⟨isText, isPlace⟩, restoredIff⟩ :=
    surround_taken_back_iff (by decide) isWord (runs _ _) rfl (runs _ _) rfl
  rw [text, spelled] at isText
  rw [place] at isPlace
  rw [text, place] at restoredIff
  exact ⟨isText.trans (by decide +kernel), isPlace, mt restoredIff.mp (by decide +kernel)⟩

end ChordEditor.Editor
