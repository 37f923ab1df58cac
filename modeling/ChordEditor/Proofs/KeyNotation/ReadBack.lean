import ChordEditor.Chord
import ChordEditor.Proofs.KeyNotation.Reading
import ChordEditor.Proofs.Text.LetterCase

namespace ChordEditor

/-!
# Presses that are shown and read back

A press is shown as the character it types, or as a name between angle brackets with marks
for what is held.  What is shown reads as one press again, except for a closing bracket
with control or alt held, which ends its own name.  The press that was read types the same
and is told from the first one by no chord, unless the character stands for another key or
the letter does not tell of shift (`readsBack_iff`).
-/

/-- The upper case of a letter is a capital of the same lower case. -/
def Text.TellsShift (letter : Char) : Prop :=
  isUppercase (upperChar letter) = true ∧ lowerForm (upperChar letter) = lowerForm letter

/-- All letters of ASCII tell of shift. -/
theorem Text.tellsShift_of_isAscii
    {letter : Char}
    (ascii : isAscii letter = true)
    (isLetter : isAlphabetic letter = true) :
    TellsShift letter :=
  of_isAscii
    (fun c =>
      isAlphabetic c = true →
        isUppercase (upperChar c) = true ∧ lowerForm (upperChar c) = lowerForm c)
    (by decide +kernel) ascii isLetter

namespace KeyEvent

open KeyNotation

/-! ## Showing a press -/

/-- What stands between angle brackets for a character. -/
def bracketedChar (c : Char) : List Char :=
  if c = '<' then "lt".toList else if c = ' ' then "Space".toList else [c]

theorem names_bracketedChar {c : Char} (notClosing : c ≠ '>') :
    Names (bracketedChar c) (.char c) := by
  unfold bracketedChar
  split
  · rename_i isOpening
    rw [isOpening]
    exact ⟨by decide, fun _ => rfl, by decide, by decide, rfl⟩
  · rename_i notOpening
    split
    · rename_i isSpace
      rw [isSpace]
      exact ⟨by decide, fun _ => rfl, by decide, by decide, rfl⟩
    · rename_i notSpace
      exact names_single (by simp [isNameChar, notOpening, notClosing, notSpace])

section Shown

variable {event : KeyEvent} {c : Char}

theorem bracketed_char (isChar : event.key = .char c) :
    event.bracketed.toList =
      '<' :: ((marksOf { event.modifiers with shift := false } ++ bracketedChar c) ++ ['>']) := by
  obtain ⟨key, ⟨shift, ctrl, alt⟩, time⟩ := event
  cases isChar
  cases ctrl <;> cases alt <;> simp [bracketed, marksOf]
  -- What is left is the name, whatever is held with the character.
  all_goals
    unfold bracketedChar
    split
    · rename_i isOpening
      cases isOpening
      rfl
    · rename_i notOpening
      rw [if_neg (fun isOpening => notOpening (congrArg Key.char isOpening)), Key.name]
      split
      · rfl
      · exact String.toList_singleton c

theorem bracketed_key
    (typesNone : ∀ c, event.key ≠ .char c)
    (notBackTab : event.key ≠ .backTab) :
    event.bracketed.toList =
      '<' :: ((marksOf event.modifiers ++ event.key.name.toList) ++ ['>']) := by
  obtain ⟨key, ⟨shift, ctrl, alt⟩, time⟩ := event
  cases key with
  | char c => exact absurd rfl (typesNone c)
  | backTab => exact absurd rfl notBackTab
  | _ => cases shift <;> cases ctrl <;> cases alt <;> simp [bracketed, marksOf]

theorem bracketed_backTab (isBackTab : event.key = .backTab) :
    event.bracketed.toList =
      '<' :: ((marksOf { event.modifiers with shift := true } ++ Key.tab.name.toList) ++
        ['>']) := by
  obtain ⟨key, ⟨shift, ctrl, alt⟩, time⟩ := event
  cases isBackTab
  cases ctrl <;> cases alt <;> simp [bracketed, marksOf, Key.name]

theorem render_key (typesNone : ∀ c, event.key ≠ .char c) :
    event.render = event.bracketed := by
  unfold render
  split
  · rename_i c isChar
    exact absurd isChar (typesNone c)
  · rfl

theorem render_char
    (isChar : event.key = .char c)
    (unheld : (event.modifiers.ctrl || event.modifiers.alt) = false)
    (notSpace : c ≠ ' ')
    (notOpening : c ≠ '<') :
    event.render.toList = [event.typedChar?.getD c] := by
  simp [render, isChar, unheld, notSpace, notOpening]

/-! ## What a press matches -/

theorem typedChar?_of_typesNone (typesNone : ∀ c, event.key ≠ .char c) :
    event.typedChar? = none := by
  unfold typedChar?
  grind

theorem typedChar?_of_held
    (held : (event.modifiers.ctrl || event.modifiers.alt) = true) :
    event.typedChar? = none := by
  rw [typedChar?, if_pos held]

theorem match?_of_typesNone
    (typesNone : ∀ c, event.key ≠ .char c)
    (fragment : Fragment) :
    fragment.match? event = none := by
  have typed := typedChar?_of_typesNone typesNone
  unfold Fragment.match?
  grind

theorem match?_of_held
    {back : KeyEvent}
    (isChar : event.key = .char c)
    (backIsChar : back.key = .char c)
    (sameCtrl : back.modifiers.ctrl = event.modifiers.ctrl)
    (sameAlt : back.modifiers.alt = event.modifiers.alt)
    (held : (event.modifiers.ctrl || event.modifiers.alt) = true)
    (fragment : Fragment) :
    fragment.match? back = fragment.match? event := by
  have typed := typedChar?_of_held held
  have backTyped : back.typedChar? = none :=
    typedChar?_of_held (by rw [sameCtrl, sameAlt, held])
  have notBare : (!event.modifiers.ctrl && !event.modifiers.alt) = false := by
    rw [← Bool.not_or, held, Bool.not_true]
  cases fragment <;>
    simp [Fragment.match?, isChar, backIsChar, sameCtrl, sameAlt, typed, backTyped, notBare]

/-- Two characters with nothing held but shift match the same if they type the same and
go with the same letters. -/
theorem match?_of_unheld
    {back : KeyEvent}
    {other : Char}
    (isChar : event.key = .char c)
    (backIsChar : back.key = .char other)
    (unheld : (event.modifiers.ctrl || event.modifiers.alt) = false)
    (backUnheld : (back.modifiers.ctrl || back.modifiers.alt) = false)
    (sameTyped : back.typedChar? = event.typedChar?)
    (sameLetters :
      ∀ letter,
        Text.isAlphabetic letter = true →
          ((Text.lowerForm other == Text.lowerForm letter &&
              back.modifiers.shift == Text.isUppercase letter) =
            (Text.lowerForm c == Text.lowerForm letter &&
              event.modifiers.shift == Text.isUppercase letter)))
    (fragment : Fragment) :
    fragment.match? back = fragment.match? event := by
  rw [Bool.or_eq_false_iff] at unheld backUnheld
  cases fragment with
  | any => exact sameTyped
  | ctrl letter => simp [Fragment.match?, isChar, backIsChar, unheld, backUnheld]
  | key letter =>
      cases isLetter : Text.isAlphabetic letter with
      | false => simp [Fragment.match?, isLetter, sameTyped]
      | true =>
          simp only [Fragment.match?, isLetter, isChar, backIsChar, unheld, backUnheld,
            Bool.not_false, Bool.true_and, if_true, sameLetters letter isLetter]

end Shown

/-! ## Reading back -/

/-- What is shown for a press reads as one press that types and matches the same. -/
def ReadsBack (event : KeyEvent) : Prop :=
  ∃ back,
    KeyNotation.read event.render.toList = .ok [back] ∧
      back.typedChar? = event.typedChar? ∧
        ∀ fragment : Fragment, fragment.match? back = fragment.match? event

/--
What is shown for a press says all that matters of it.  With control or alt held, the
character is not the bracket that ends names.  On its own it does not stand for another key,
and a letter with shift held tells of it.
-/
def ShownInFull (event : KeyEvent) : Prop :=
  match event.key with
  | .char c =>
      if event.modifiers.ctrl || event.modifiers.alt then
        c ≠ '>'
      else
        c ≠ '\n' ∧ c ≠ '\t' ∧
          (Text.isAlphabetic c = true → event.modifiers.shift = true → Text.TellsShift c)
  | _ => True

section ReadBack

variable {event : KeyEvent} {c : Char}

/-- A key that types no character reads back by its name. -/
theorem readsBack_of_typesNone
    (typesNone : ∀ c, event.key ≠ .char c)
    (isRead : IsRead event) :
    event.ReadsBack := by
  obtain ⟨name, key, held, names, keyTypesNone, isShown⟩ :
      ∃ name key held, Names name key ∧ (∀ c, key ≠ .char c) ∧
        event.bracketed.toList = '<' :: ((marksOf held ++ name) ++ ['>']) := by
    by_cases isBackTab : event.key = .backTab
    · exact ⟨_, .tab, _, names_of_key nofun nofun nofun, nofun, bracketed_backTab isBackTab⟩
    · exact ⟨_, event.key, _, names_of_key typesNone isBackTab isRead.number, typesNone,
        bracketed_key typesNone isBackTab⟩
  obtain ⟨back, isNamed, backTypesNone⟩ := exists_readName names keyTypesNone held
  refine ⟨{ back with time := step }, ?_, ?_, fun fragment => ?_⟩
  · rw [render_key typesNone, isShown, read_bracketed names held isNamed]
  · rw [typedChar?_of_typesNone typesNone]
    exact typedChar?_of_typesNone backTypesNone
  · rw [match?_of_typesNone typesNone]
    exact match?_of_typesNone backTypesNone fragment

/-- A character between angle brackets reads as itself with what is held. -/
theorem read_bracketed_char
    (isChar : event.key = .char c)
    (notClosing : c ≠ '>') :
    KeyNotation.read event.bracketed.toList =
      .ok
        [{ key := .char c
           modifiers := { event.modifiers with shift := Text.isUppercase c }
           time := step }] := by
  have names := names_bracketedChar notClosing
  rw [bracketed_char isChar, read_bracketed names _ (readName_char names _)]
  rfl

/-- The name of a closing bracket ends before the bracket, with a mark that marks nothing. -/
theorem read_bracketed_closing
    (isClosing : event.key = .char '>')
    (held : (event.modifiers.ctrl || event.modifiers.alt) = true)
    (events : List KeyEvent) :
    KeyNotation.read event.bracketed.toList ≠ .ok events := by
  have isShown := bracketed_char isClosing
  obtain ⟨key, ⟨shift, ctrl, alt⟩, time⟩ := event
  have someMark : marksOf { ctrl, alt } ≠ [] := by
    cases ctrl <;> cases alt <;> first | contradiction | exact List.cons_ne_nil _ _
  have notPause : waitMark.isPrefixOf (marksOf { ctrl, alt }) = false := by
    cases ctrl <;> cases alt <;> rfl
  have notNamed : ∃ reason, readName (marksOf { ctrl, alt }) = .error reason := by
    cases ctrl <;> cases alt <;> first | contradiction | exact ⟨_, rfl⟩
  obtain ⟨reason, notNamed⟩ := notNamed
  have endsEarly :
      (marksOf { ctrl, alt } ++ bracketedChar '>') ++ ['>'] =
        marksOf { ctrl, alt } ++ '>' :: ['>'] := by
    rw [List.append_assoc]
    rfl
  rw [isShown, endsEarly, KeyNotation.read,
    readFrom_bracketed someMark (marksOf_nameChars _) notPause, notNamed]
  intro isOk
  contradiction

/-- With control or alt held, every character but the closing bracket reads back. -/
theorem readsBack_of_held
    (isChar : event.key = .char c)
    (held : (event.modifiers.ctrl || event.modifiers.alt) = true) :
    event.ReadsBack ↔ c ≠ '>' := by
  have isShown : event.render = event.bracketed := by
    simp [render, isChar, held]
  constructor
  · rintro ⟨back, reads, -⟩ rfl
    rw [isShown] at reads
    exact read_bracketed_closing isChar held _ reads
  · intro notClosing
    refine ⟨_, isShown ▸ read_bracketed_char isChar notClosing, ?_, ?_⟩
    · rw [typedChar?_of_held held]
      exact typedChar?_of_held held
    · exact match?_of_held isChar rfl rfl rfl held

theorem plain_of_letter
    {letter : Char}
    (isLetter : Text.isAlphabetic letter = true) :
    letter ≠ ' ' ∧ letter ≠ '<' ∧ letter ≠ '\n' ∧ letter ≠ '\t' := by
  refine ⟨?_, ?_, ?_, ?_⟩
  all_goals
    rintro rfl
    exact absurd isLetter (by decide)

/-- A letter matches the fragment for it. -/
theorem match?_key_ofChar
    {letter : Char}
    (isLetter : Text.isAlphabetic letter = true)
    (time : Nat) :
    (Fragment.key letter).match? (ofChar letter time) = some letter := by
  simp [Fragment.match?, isLetter, ofChar]

/-- What matches the fragment for a letter is that letter, in that case. -/
theorem of_match?_key
    {letter : Char}
    (isChar : event.key = .char c)
    (isLetter : Text.isAlphabetic letter = true)
    (matched : (Fragment.key letter).match? event = some letter) :
    Text.lowerForm c = Text.lowerForm letter ∧
      event.modifiers.shift = Text.isUppercase letter := by
  simp only [Fragment.match?, isLetter, isChar, if_true, Option.ite_none_right_eq_some,
    Bool.and_eq_true, beq_iff_eq] at matched
  exact ⟨matched.1.1.2, matched.1.2⟩

section Unheld

variable (isChar : event.key = .char c)
  (unheld : (event.modifiers.ctrl || event.modifiers.alt) = false)

include isChar unheld

/-- A character that is no letter types itself. -/
theorem typedChar?_of_other (isOther : Text.isAlphabetic c = false) :
    event.typedChar? = some c := by
  simp [typedChar?, isChar, unheld, isOther]

theorem typedChar?_of_letter (isLetter : Text.isAlphabetic c = true) :
    event.typedChar? =
      some (if event.modifiers.shift then Text.upperChar c else Text.lowerChar c) := by
  simp [typedChar?, isChar, unheld, isLetter]

/-- A character that is no letter goes with no letter, whether shift is held or not. -/
theorem match?_of_other
    {back : KeyEvent}
    (backIsChar : back.key = .char c)
    (backUnheld : (back.modifiers.ctrl || back.modifiers.alt) = false)
    (isOther : Text.isAlphabetic c = false)
    (fragment : Fragment) :
    fragment.match? back = fragment.match? event := by
  apply match?_of_unheld isChar backIsChar unheld backUnheld
  · rw [typedChar?_of_other isChar unheld isOther,
      typedChar?_of_other backIsChar backUnheld isOther]
  · intro letter isLetter
    rw [beq_eq_false_iff_ne.mpr (Text.lowerForm_ne_of_isAlphabetic isOther isLetter),
      Bool.false_and, Bool.false_and]

/-- On its own a character reads as the press of the key that it stands for. -/
theorem read_char
    (notSpace : c ≠ ' ')
    (notOpening : c ≠ '<') :
    KeyNotation.read event.render.toList = .ok [pressOf (event.typedChar?.getD c) step] := by
  rw [render_char isChar unheld notSpace notOpening, KeyNotation.read, readFrom_single]
  rfl

/-- A character that is no letter reads back unless it stands for another key. -/
theorem readsBack_of_other (isOther : Text.isAlphabetic c = false) :
    event.ReadsBack ↔ c ≠ '\n' ∧ c ≠ '\t' := by
  have typed := typedChar?_of_other isChar unheld isOther
  by_cases isBracketed : c = ' ' ∨ c = '<'
  · have isShown : event.render = event.bracketed := by
      obtain rfl | rfl := isBracketed <;> simp [render, isChar]
    have plain : c ≠ '\n' ∧ c ≠ '\t' ∧ c ≠ '>' := by
      obtain rfl | rfl := isBracketed <;> decide
    refine iff_of_true ⟨_, isShown ▸ read_bracketed_char isChar plain.2.2, ?_, ?_⟩
      ⟨plain.1, plain.2.1⟩
    · rw [typed]
      exact typedChar?_of_other rfl unheld isOther
    · exact match?_of_other isChar unheld rfl unheld isOther
  · rw [not_or] at isBracketed
    have reads := read_char isChar unheld isBracketed.1 isBracketed.2
    rw [typed, Option.getD_some] at reads
    constructor
    · rintro ⟨back, readsBack, sameTyped, -⟩
      rw [reads] at readsBack
      cases readsBack
      rw [typed] at sameTyped
      constructor
      all_goals
        rintro rfl
        cases sameTyped
    · rintro ⟨notNewline, notTab⟩
      rw [pressOf, if_neg notNewline, if_neg notTab] at reads
      refine ⟨_, reads, ?_, ?_⟩
      · rw [typed]
        exact typedChar?_of_other rfl rfl isOther
      · exact match?_of_other isChar unheld rfl rfl isOther

/-- The letter that a letter is typed as reads as itself. -/
theorem read_letter
    {typed : Char}
    (isLetter : Text.isAlphabetic c = true)
    (isTyped : event.typedChar? = some typed)
    (typedIsLetter : Text.isAlphabetic typed = true) :
    KeyNotation.read event.render.toList = .ok [.ofChar typed step] := by
  obtain ⟨notSpace, notOpening, -⟩ := plain_of_letter isLetter
  obtain ⟨-, -, notNewline, notTab⟩ := plain_of_letter typedIsLetter
  rw [read_char isChar unheld notSpace notOpening, isTyped, Option.getD_some, pressOf,
    if_neg notNewline, if_neg notTab]

/-- Shift and the letter are told by the letter that is typed. -/
theorem readsBack_of_typed
    {typed : Char}
    (isTyped : event.typedChar? = some typed)
    (typedIsLetter : Text.isAlphabetic typed = true)
    (reads : KeyNotation.read event.render.toList = .ok [.ofChar typed step])
    (staysTyped :
      (if Text.isUppercase typed then Text.upperChar typed else Text.lowerChar typed) = typed)
    (sameShift : Text.isUppercase typed = event.modifiers.shift)
    (sameLetter : Text.lowerForm typed = Text.lowerForm c) :
    event.ReadsBack := by
  have backTyped : (ofChar typed step).typedChar? = event.typedChar? := by
    rw [isTyped, typedChar?_of_letter rfl rfl typedIsLetter]
    exact congrArg some staysTyped
  refine ⟨_, reads, backTyped, match?_of_unheld isChar rfl unheld rfl backTyped ?_⟩
  intro letter _
  rw [sameLetter, ← sameShift]
  rfl

/-- A letter reads back exactly if it tells of shift where shift is held. -/
theorem readsBack_of_letter
    (isLetter : Text.isAlphabetic c = true)
    (capital : Text.isUppercase c = true → event.modifiers.shift = true) :
    event.ReadsBack ↔ (event.modifiers.shift = true → Text.TellsShift c) := by
  have typed := typedChar?_of_letter isChar unheld isLetter
  cases shift : event.modifiers.shift with
  | true =>
      rw [shift, if_pos rfl] at typed
      have typedIsLetter := Text.isAlphabetic_upperChar isLetter
      have reads := read_letter isChar unheld isLetter typed typedIsLetter
      constructor
      · rintro ⟨back, readsBack, -, sameMatches⟩ -
        rw [reads] at readsBack
        cases readsBack
        -- The fragment for the letter that is typed tells the presses apart.
        have matched := (sameMatches _).symm.trans (match?_key_ofChar typedIsLetter step)
        obtain ⟨sameLetter, isUpper⟩ := of_match?_key isChar typedIsLetter matched
        exact ⟨isUpper ▸ shift, sameLetter.symm⟩
      · intro tellsShift
        obtain ⟨isUpper, sameLetter⟩ := tellsShift rfl
        refine readsBack_of_typed isChar unheld typed typedIsLetter reads ?_
          (isUpper.trans shift.symm) sameLetter
        rw [if_pos isUpper, Text.upperChar, Text.upperForm_of_isUppercase isUpper,
          List.headD_cons]
  | false =>
      have notUpper : Text.isUppercase c = false := by
        rw [Bool.eq_false_iff]
        intro isUpper
        rw [capital isUpper] at shift
        contradiction
      rw [shift, if_neg Bool.false_ne_true] at typed
      have typedIsLetter := Text.isAlphabetic_lowerChar isLetter
      have reads := read_letter isChar unheld isLetter typed typedIsLetter
      obtain ⟨staysSmall, isForm, staysForm⟩ := Text.lowerForm_of_isUppercase_eq_false notUpper
      refine iff_of_true (readsBack_of_typed isChar unheld typed typedIsLetter reads ?_
        (staysSmall.trans shift.symm) (staysForm.trans isForm.symm))
        fun isTrue => absurd isTrue Bool.false_ne_true
      rw [staysSmall, if_neg Bool.false_ne_true, Text.lowerChar, staysForm, List.headD_cons]

end Unheld

/--
What is shown for a press that was read is read as one press that types the same and matches
the same fragments of chords if and only if it is shown in full.
-/
theorem readsBack_iff
    {text : List Char}
    {events : List KeyEvent}
    (reads : KeyNotation.read text = .ok events)
    (isEvent : event ∈ events) :
    event.ReadsBack ↔ event.ShownInFull := by
  have isRead := isRead_of_mem reads event isEvent
  unfold ShownInFull
  split
  · rename_i c isChar
    cases held : event.modifiers.ctrl || event.modifiers.alt with
    | true =>
        rw [readsBack_of_held isChar held, if_pos rfl]
    | false =>
        rw [if_neg Bool.false_ne_true]
        cases isLetter : Text.isAlphabetic c with
        | true =>
            obtain ⟨-, -, notNewline, notTab⟩ := plain_of_letter isLetter
            rw [readsBack_of_letter isChar held isLetter (isRead.capital c isChar)]
            exact
              ⟨fun tells => ⟨notNewline, notTab, fun _ => tells⟩, fun full => full.2.2 rfl⟩
        | false =>
            simp [readsBack_of_other isChar held isLetter]
  · rename_i notChar
    exact iff_of_true (readsBack_of_typesNone notChar isRead) trivial

end ReadBack

/-- Of the two angle brackets with control held, only the opening one has a name of its own. -/
theorem opening_bracket_reads_back_closing_does_not :
    KeyNotation.read "<C-lt><C-gt>".toList =
        .ok
          [{ key := .char '<', modifiers := { ctrl := true }, time := 10 },
            { key := .char '>', modifiers := { ctrl := true }, time := 20 }] ∧
      ReadsBack { key := .char '<', modifiers := { ctrl := true }, time := 10 } ∧
        ¬ ReadsBack { key := .char '>', modifiers := { ctrl := true }, time := 20 } := by
  have reads :
      KeyNotation.read "<C-lt><C-gt>".toList =
        .ok
          [{ key := .char '<', modifiers := { ctrl := true }, time := 10 },
            { key := .char '>', modifiers := { ctrl := true }, time := 20 }] := by
    have isOpening :
        readName ['C', '-', 'l', 't'] =
          .ok { key := .char '<', modifiers := { ctrl := true } } :=
      rfl
    have isClosing :
        readName ['C', '-', 'g', 't'] =
          .ok { key := .char '>', modifiers := { ctrl := true } } :=
      rfl
    have isText :
        "<C-lt><C-gt>".toList =
          '<' :: (['C', '-', 'l', 't'] ++ '>' :: '<' :: (['C', '-', 'g', 't'] ++ '>' :: [])) := by
      decide
    rw [isText, KeyNotation.read, readFrom_bracketed (by decide) (by decide) (by decide),
      isOpening, readFrom_bracketed (by decide) (by decide) (by decide), isClosing, readFrom]
    rfl
  have opening : '<' ≠ '>' := by
    decide
  exact ⟨reads, (readsBack_iff reads List.mem_cons_self).mpr opening,
    fun readsBack =>
      (readsBack_iff reads (List.mem_cons_of_mem _ List.mem_cons_self)).mp readsBack rfl⟩

end KeyEvent

end ChordEditor
