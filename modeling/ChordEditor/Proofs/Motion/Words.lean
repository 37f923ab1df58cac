import ChordEditor.Proofs.Buffer.Arrivals
import ChordEditor.Proofs.Buffer.Newlines

namespace ChordEditor

/-!
# Word motions

The step to the next word goes behind the word that a place is on, and then behind all
blanks, LFs among them.  What an operator takes of this keeps to the line of the place
unless the rest of the line and the whole next line are blank (`wordForward_span_iff`).

No step to a next word or to the end of one goes backward, except for the step to the
end of a word that is asked for at the end of the text.
-/

theorem Text.CharClass.of_eq_whitespace_iff (c : Char) :
    Text.CharClass.of c = .whitespace ↔ Text.isBlank c = true := by
  by_cases blank : Text.isBlank c = true
  · simp [Text.CharClass.of, blank]
  · by_cases word : Text.isWordChar c = true <;> simp [Text.CharClass.of, blank, word]

namespace Motion

/-! ## One step -/

theorem runLength_whitespace (text : List Char) :
    runLength .whitespace text = (Text.leadingBlank text).length := by
  have sameTest :
      (fun c => decide (Text.CharClass.of c = .whitespace)) = Text.isBlank := by
    funext c
    rw [Bool.eq_iff_iff, decide_eq_true_iff, Text.CharClass.of_eq_whitespace_iff]
  rw [runLength, sameTest]
  rfl

/-- The word at the start of a text. -/
def wordAhead : List Char → List Char
  | [] => []
  | c :: rest =>
      if Text.CharClass.of c = .whitespace then
        []
      else
        (c :: rest).takeWhile fun other => Text.CharClass.of other = .of c

theorem wordAhead_isPrefix (text : List Char) : wordAhead text <+: text := by
  cases text with
  | nil =>
      exact List.prefix_rfl
  | cons c rest =>
      rw [wordAhead]
      split
      · exact List.nil_prefix
      · exact List.takeWhile_prefix _

theorem not_isBlank_of_mem_wordAhead
    {text : List Char}
    {c : Char}
    (inWord : c ∈ wordAhead text) :
    Text.isBlank c = false := by
  cases text with
  | nil =>
      contradiction
  | cons first rest =>
      rw [wordAhead] at inWord
      split at inWord
      · contradiction
      · rename_i isWord
        have sameClass :=
          of_decide_eq_true (List.all_eq_true.mp List.all_takeWhile c inWord)
        rw [← sameClass, Text.CharClass.of_eq_whitespace_iff] at isWord
        exact Bool.eq_false_iff.mpr isWord

/-- Where the word that a place is on ends, the place itself if there is no word. -/
def wordStop
    (text : List Char)
    (place : Nat) : Nat :=
  place + (wordAhead (text.drop place)).length

theorem le_wordStop
    (text : List Char)
    (place : Nat) :
    place ≤ wordStop text place :=
  Nat.le_add_right _ _

section Step

variable {text : List Char} {place : Nat}

theorem wordStop_le (inText : place ≤ text.length) : wordStop text place ≤ text.length := by
  have within := (wordAhead_isPrefix (text.drop place)).length_le
  rw [List.length_drop] at within
  unfold wordStop
  omega

/-- The next word starts behind the blanks that follow the word. -/
theorem wordForwardFrom_eq (inText : place ≤ text.length) :
    wordForwardFrom text place =
      wordStop text place + (Text.leadingBlank (text.drop (wordStop text place))).length := by
  unfold wordForwardFrom wordStop
  split
  · rename_i none
    have atEnd : text.length = place :=
      Nat.le_antisymm (List.drop_eq_nil_iff.mp none) inText
    simp [none, wordAhead, Text.leadingBlank, atEnd]
  · rename_i c rest ahead
    rw [← List.drop_drop, ahead, ← runLength_whitespace, wordAhead]
    split <;> rfl

/-- The step goes as far as everything behind the word is blank. -/
theorem le_wordForwardFrom_iff
    {stop : Nat}
    (inText : place ≤ text.length)
    (behind : wordStop text place ≤ stop)
    (stopInText : stop ≤ text.length) :
    stop ≤ wordForwardFrom text place ↔
      Text.isBlankText ((text.take stop).drop (wordStop text place)) = true := by
  obtain ⟨count, rfl⟩ := Nat.exists_eq_add_of_le behind
  have inRest : count ≤ (text.drop (wordStop text place)).length := by
    rw [List.length_drop]
    omega
  rw [wordForwardFrom_eq inText, Nat.add_le_add_iff_left,
    Text.le_length_leadingBlank_iff inRest, List.drop_take, Nat.add_sub_cancel_left]

theorem le_wordForwardFrom (inText : place ≤ text.length) :
    place ≤ wordForwardFrom text place := by
  rw [wordForwardFrom_eq inText]
  exact Nat.le_trans (le_wordStop text place) (Nat.le_add_right _ _)

end Step

/-! ## Any number of steps -/

section Target

variable {buffer : Buffer} {place : Nat} {args : MotionArgs}

theorem le_target_wordForward (inText : place ≤ buffer.length) :
    place ≤ wordForward.target buffer place args := by
  have keeps (next : Nat) (between : place ≤ next ∧ next ≤ buffer.length) :
      place ≤ wordForwardFrom buffer.text next ∧
        wordForwardFrom buffer.text next ≤ buffer.length :=
    ⟨Nat.le_trans between.1 (le_wordForwardFrom between.2), wordForwardFrom_le between.2⟩
  simp only [target, Buffer.clamp_of_le inText]
  exact (iterate_keeps keeps _ ⟨Nat.le_refl place, inText⟩).1

theorem target_wordBackward_le (inText : place ≤ buffer.length) :
    wordBackward.target buffer place args ≤ place := by
  simp only [target, Buffer.clamp_of_le inText]
  exact
    iterate_le (fun next before => Nat.le_trans (wordBackwardFrom_le _ next) before) _
      (Nat.le_refl place)

theorem le_target_wordEnd (inside : place < buffer.length) :
    place ≤ wordEnd.target buffer place args ∧
      wordEnd.target buffer place args < buffer.length := by
  have keeps (next : Nat) (between : place ≤ next ∧ next < buffer.length) :
      place ≤ wordEndFrom buffer.text next ∧ wordEndFrom buffer.text next < buffer.length :=
    have step := wordEndFrom_between between.2
    ⟨Nat.le_trans between.1 step.1, step.2⟩
  simp only [target, Buffer.clamp_of_le (Nat.le_of_lt inside)]
  exact iterate_keeps keeps _ ⟨Nat.le_refl place, inside⟩

/-- From the end of the text the end of a word is its last character, for every count. -/
theorem target_wordEnd_at_end :
    wordEnd.target buffer buffer.length args = buffer.length - 1 := by
  have keeps (next : Nat) (isLast : next = buffer.length - 1) :
      wordEndFrom buffer.text next = buffer.length - 1 := by
    apply wordEndFrom_of_last
    rw [isLast, Buffer.length]
    omega
  have someStep : max args.count 1 = (max args.count 1 - 1) + 1 := by
    omega
  simp only [target, Buffer.clamp_of_le (Nat.le_refl buffer.length)]
  -- The first step goes back to the last character, and all others stay there.
  rw [someStep, iterate]
  exact iterate_keeps keeps _ (wordEndFrom_of_last (Nat.le_succ _))

/-- The end of a word is not before the place, except at the end of a text not empty. -/
theorem le_target_wordEnd_iff (inText : place ≤ buffer.length) :
    place ≤ wordEnd.target buffer place args ↔ place < buffer.length ∨ buffer.length = 0 := by
  rcases Nat.eq_or_lt_of_le inText with rfl | inside
  · rw [target_wordEnd_at_end]
    omega
  · exact iff_of_true (le_target_wordEnd inside).1 (.inl inside)

end Target

/-! ## Spans -/

section Span

variable {buffer : Buffer} {place : Nat} {args : MotionArgs}

/-- What reaches another line is cut back to the end of the one before that. -/
theorem operatorEnd_wordForward (arrival : Nat) :
    wordForward.operatorEnd buffer place arrival =
      if buffer.lineOf place < buffer.lineOf arrival then
        max (buffer.lineEnd (buffer.lineOf arrival - 1)) place
      else
        arrival := by
  simp [operatorEnd, isInclusive]

/-- The span up to the next word starts at the place. -/
theorem operatorSpan_wordForward (inText : place ≤ buffer.length) :
    wordForward.operatorSpan buffer place args =
      ⟨place, wordForward.operatorEnd buffer place (wordForward.target buffer place args)⟩ := by
  have forward := @le_target_wordForward buffer place args inText
  have behind :
      place ≤ wordForward.operatorEnd buffer place (wordForward.target buffer place args) := by
    rw [operatorEnd_wordForward]
    split
    · exact Nat.le_max_right _ _
    · exact forward
  rw [operatorSpan_of_charwise rfl inText]
  dsimp only
  rw [Nat.min_eq_left behind, Nat.max_eq_right behind]

/-- The span back to the start of a word stops at the place. -/
theorem operatorSpan_wordBackward (inText : place ≤ buffer.length) :
    wordBackward.operatorSpan buffer place args =
      ⟨wordBackward.target buffer place args, place⟩ := by
  have backward := @target_wordBackward_le buffer place args inText
  have stop (arrival : Nat) : wordBackward.operatorEnd buffer place arrival = arrival := by
    simp [operatorEnd, isInclusive]
  rw [operatorSpan_of_charwise rfl inText]
  dsimp only
  rw [stop, Nat.min_eq_right backward, Nat.max_eq_left backward]

/-- The character that is arrived at is taken unless the motion goes backward. -/
theorem operatorEnd_wordEnd (arrival : Nat) :
    wordEnd.operatorEnd buffer place arrival =
      if place ≤ arrival ∧ arrival < buffer.length then arrival + 1 else arrival := by
  simp [operatorEnd, isInclusive]

/-- From within the text the span to the end of a word starts at the place. -/
theorem operatorSpan_wordEnd (inside : place < buffer.length) :
    wordEnd.operatorSpan buffer place args =
      ⟨place, wordEnd.target buffer place args + 1⟩ := by
  obtain ⟨forward, arrives⟩ := @le_target_wordEnd buffer place args inside
  have behind : place ≤ wordEnd.target buffer place args + 1 :=
    Nat.le_succ_of_le forward
  rw [operatorSpan_of_charwise rfl (Nat.le_of_lt inside)]
  dsimp only
  rw [operatorEnd_wordEnd, if_pos ⟨forward, arrives⟩, Nat.min_eq_left behind,
    Nat.max_eq_right behind]

/-- From the end of the text the span to the end of a word is the last character. -/
theorem operatorSpan_wordEnd_at_end :
    wordEnd.operatorSpan buffer buffer.length args = ⟨buffer.length - 1, buffer.length⟩ := by
  have notForward :
      ¬ (buffer.length ≤ buffer.length - 1 ∧ buffer.length - 1 < buffer.length) := by
    rintro ⟨notBefore, before⟩
    exact absurd before (Nat.not_lt_of_le notBefore)
  rw [operatorSpan_of_charwise rfl (Nat.le_refl _), target_wordEnd_at_end]
  dsimp only
  rw [operatorEnd_wordEnd, if_neg notForward, Nat.min_eq_right (Nat.sub_le _ _),
    Nat.max_eq_left (Nat.sub_le _ _)]

end Span

/-! ## Crossing lines -/

section Crossing

variable {buffer : Buffer} {place : Nat} {args : MotionArgs}

/-- Only blanks follow the word up to the end of the line, and the next line is blank too. -/
structure BlankLineAhead
    (buffer : Buffer)
    (place : Nat) : Prop where
  rest :
    Text.isBlankText
      (buffer.slice (wordStop buffer.text place) (buffer.lineEnd (buffer.lineOf place))) = true
  next : Text.isBlankText (buffer.lineText (buffer.lineOf place + 1)) = true
  notLast : buffer.lineOf place + 1 < buffer.lastLine

variable (onlyNewlines : Text.BrokenByNewlines buffer.text)

include onlyNewlines

/-- A word does not go behind the line that it starts on. -/
theorem wordStop_le_lineEnd (inText : place ≤ buffer.length) :
    wordStop buffer.text place ≤ buffer.lineEnd (buffer.lineOf place) := by
  have noNewline : '\n' ∉ buffer.slice place (wordStop buffer.text place) := by
    intro isIn
    obtain ⟨behind, ahead⟩ := wordAhead_isPrefix (buffer.text.drop place)
    rw [Buffer.slice, List.drop_take, ← ahead, wordStop, Nat.add_sub_cancel_left,
      List.take_left] at isIn
    exact absurd (not_isBlank_of_mem_wordAhead isIn) (by decide)
  rw [Buffer.newline_mem_slice_iff onlyNewlines (wordStop_le inText) (le_wordStop _ _)]
    at noNewline
  exact Nat.le_of_not_lt noNewline

/-- The next word is on a later line than the next one if a blank line is ahead. -/
theorem blankLineAhead_iff (inText : place ≤ buffer.length) :
    BlankLineAhead buffer place ↔
      buffer.lineOf place + 1 < buffer.lineOf (wordForwardFrom buffer.text place) := by
  have arrives := wordForwardFrom_le inText
  have wordOnLine := wordStop_le_lineEnd onlyNewlines inText
  by_cases notLast : buffer.lineOf place + 1 < buffer.lastLine
  · have isLine := Nat.le_of_lt (Nat.lt_of_succ_lt notLast)
    have next := (Buffer.newline_at_lineEnd onlyNewlines (Nat.lt_of_succ_lt notLast)).2
    have wordBefore :
        wordStop buffer.text place ≤ buffer.lineStart (buffer.lineOf place + 1) := by
      rw [next]
      exact Nat.le_succ_of_le wordOnLine
    have nextInOrder := Buffer.lineStart_mono buffer (Nat.le_succ (buffer.lineOf place + 1))
    -- The line behind the next one is reached over the rest of the line and the next line.
    have read :
        buffer.slice (wordStop buffer.text place)
            (buffer.lineStart (buffer.lineOf place + 1 + 1)) =
          buffer.slice (wordStop buffer.text place)
              (buffer.lineEnd (buffer.lineOf place)) ++ ['\n'] ++
            (buffer.lineText (buffer.lineOf place + 1) ++ ['\n']) := by
      rw [← Buffer.slice_append_slice wordBefore nextInOrder,
        Buffer.slice_lineStart_succ onlyNewlines (Nat.lt_of_succ_lt notLast) wordOnLine,
        Buffer.slice_lineStart_succ onlyNewlines notLast
          (Buffer.lineStart_le_lineEnd (Nat.le_of_lt notLast)),
        Buffer.slice_lineStart_lineEnd (Nat.le_of_lt notLast)]
    have newlineBlank : Text.isBlank '\n' = true := by
      decide
    calc
      BlankLineAhead buffer place ↔
          Text.isBlankText
            (buffer.slice (wordStop buffer.text place)
              (buffer.lineStart (buffer.lineOf place + 1 + 1))) = true := by
        rw [read]
        simp only [Text.isBlankText, List.all_append, List.all_cons, List.all_nil, newlineBlank,
          Bool.and_true, Bool.and_eq_true]
        constructor
        · intro ahead
          exact ⟨ahead.rest, ahead.next⟩
        · rintro ⟨rest, nextBlank⟩
          exact ⟨rest, nextBlank, notLast⟩
      _ ↔ buffer.lineStart (buffer.lineOf place + 1 + 1) ≤
            wordForwardFrom buffer.text place :=
        (le_wordForwardFrom_iff inText (Nat.le_trans wordBefore nextInOrder)
          (buffer.lineStart_le _)).symm
      _ ↔ buffer.lineOf place + 1 < buffer.lineOf (wordForwardFrom buffer.text place) :=
        (Buffer.le_lineOf_iff notLast arrives).symm
  · have located := buffer.lineOf_le_lastLine (wordForwardFrom buffer.text place)
    constructor
    · intro ahead
      exact absurd ahead.notLast notLast
    · intro crosses
      exact absurd (Nat.lt_of_lt_of_le crosses located) notLast

/-- What an operator takes up to the next word is on the line unless a blank line is ahead. -/
theorem operatorEnd_wordForwardFrom_le_iff (inText : place ≤ buffer.length) :
    wordForward.operatorEnd buffer place (wordForwardFrom buffer.text place) ≤
        buffer.lineEnd (buffer.lineOf place) ↔
      ¬ BlankLineAhead buffer place := by
  rw [blankLineAhead_iff onlyNewlines inText, operatorEnd_wordForward]
  have forward := buffer.lineOf_mono (le_wordForwardFrom inText)
  have arrives : wordForwardFrom buffer.text place ≤ buffer.length := wordForwardFrom_le inText
  generalize wordForwardFrom buffer.text place = arrival at arrives forward ⊢
  have isLine := buffer.lineOf_le_lastLine arrival
  split
  · rename_i crosses
    rw [Nat.max_le, and_iff_left (Buffer.le_lineEnd_lineOf onlyNewlines inText)]
    constructor
    · intro cutBack further
      exact absurd cutBack
        (Nat.not_le_of_lt (Buffer.lineEnd_lt onlyNewlines (by omega) (by omega)))
    · intro notFurther
      exact Buffer.lineEnd_mono buffer (by omega)
  · rename_i stays
    have sameLine := Nat.le_antisymm (Nat.le_of_not_lt stays) forward
    rw [← sameLine]
    exact iff_of_true (Buffer.le_lineEnd_lineOf onlyNewlines arrives) (by omega)

/--
The span up to the next word starts at the place.  It stops on the line of the place, and
it holds no LF, unless a blank line is ahead.
-/
theorem wordForward_span_iff
    (once : args.count ≤ 1)
    (inText : place ≤ buffer.length) :
    let span := wordForward.operatorSpan buffer place args
    span.start = place ∧
      (span.stop ≤ buffer.lineEnd (buffer.lineOf place) ↔ ¬ BlankLineAhead buffer place) ∧
        ('\n' ∈ buffer.spanText span ↔ BlankLineAhead buffer place) := by
  intro span
  have isRange := wordForward.operatorSpan_isRange buffer place args
  have oneStep : wordForward.target buffer place args = wordForwardFrom buffer.text place := by
    simp only [target, Buffer.clamp_of_le inText, Nat.max_eq_right once, iterate]
  have starts : span.start = place := by
    rw [show span = _ from operatorSpan_wordForward inText]
  have onLine :
      span.stop ≤ buffer.lineEnd (buffer.lineOf place) ↔ ¬ BlankLineAhead buffer place := by
    rw [show span = _ from operatorSpan_wordForward inText, oneStep]
    exact operatorEnd_wordForwardFrom_le_iff onlyNewlines inText
  have ordered : place ≤ span.stop :=
    Nat.le_trans (Nat.le_of_eq starts.symm) isRange.ordered
  refine ⟨starts, onLine, ?_⟩
  rw [Buffer.spanText, starts,
    Buffer.newline_mem_slice_iff onlyNewlines isRange.inText ordered,
    ← Nat.not_le, onLine, Classical.not_not]

end Crossing

end Motion

end ChordEditor
