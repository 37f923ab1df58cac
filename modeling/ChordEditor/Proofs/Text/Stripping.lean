import ChordEditor.Proofs.Buffer.Coverage
import ChordEditor.Proofs.Text.Cuts

namespace ChordEditor.Text

/-!
# Lines whose end is stripped

A line is a body without breaks and what ends it, and the blanks at the end of its own
text can hold a break that ends it too: VT, FF, NEL, LS and PS are blank and belong to
the own text.  When the blanks are taken away the other lines stay, unless a break goes
with them, or the CR that ends the line before comes to stand before a LF.
-/

/-- Whether a text is one break. -/
def IsBreak (ending : List Char) : Prop :=
  ending = ['\r', '\n'] ∨ ∃ c, isLineBreak c = true ∧ ending = [c]

/-- A line has no break before its end, and only the last one has none there. -/
theorem exists_body
    {text line : List Char}
    {ended later : List (List Char)}
    (shape : lines text = ended ++ line :: later) :
    ∃ body ending,
      line = body ++ ending ∧ HasNoBreak body ∧ (IsBreak ending ∨ ending = [] ∧ later = []) := by
  induction text generalizing ended line with
  | nil =>
      cases ended with
      | nil =>
          cases shape
          exact ⟨[], [], rfl, hasNoBreak_nil, .inr ⟨rfl, rfl⟩⟩
      | cons _ _ =>
          simp [lines] at shape
  | cons c rest inductionHypothesis =>
      obtain ⟨first, others, restShape⟩ := List.exists_cons_of_ne_nil (lines_ne_nil rest)
      rw [lines_cons] at shape
      cases ends : endsLine c rest with
      | true =>
          rw [ends, if_pos rfl] at shape
          cases ended with
          | nil =>
              cases shape
              have isBreak : isLineBreak c = true := by
                rw [endsLine_eq, Bool.and_eq_true] at ends
                exact ends.1
              exact ⟨[], [c], rfl, hasNoBreak_nil, .inl (.inr ⟨c, isBreak, rfl⟩)⟩
          | cons _ ended =>
              exact inductionHypothesis (List.cons.inj shape).2
      | false =>
          rw [ends, restShape] at shape
          cases ended with
          | cons _ ended =>
              have sameOthers : others = ended ++ line :: later := (List.cons.inj shape).2
              have behind : lines rest = (first :: ended) ++ line :: later := by
                rw [restShape, sameOthers]
                rfl
              exact inductionHypothesis behind
          | nil =>
              cases shape
              rcases crlf_or_not c rest with ⟨rfl, more, rfl⟩ | notCrlf
              · have isNewline : first = ['\n'] := by
                  rw [lines_cons] at restShape
                  exact (List.cons.inj restShape).1.symm
                rw [isNewline]
                exact ⟨[], ['\r', '\n'], rfl, hasNoBreak_nil, .inl (.inl rfl)⟩
              · rw [endsLine_eq_isLineBreak notCrlf] at ends
                have behind : lines rest = [] ++ first :: later := restShape
                obtain ⟨body, ending, rfl, noBreak, isEnding⟩ := inductionHypothesis behind
                exact
                  ⟨c :: body, ending, rfl, (hasNoBreak_cons _ _).mpr ⟨ends, noBreak⟩, isEnding⟩

theorem isBlank_of_isLineBreak
    {c : Char}
    (isBreak : isLineBreak c = true) :
    isBlank c = true := by
  simp only [isLineBreak, Bool.or_eq_true, beq_iff_eq] at isBreak
  rcases isBreak with (((((rfl | rfl) | rfl) | rfl) | rfl) | rfl) | rfl <;> rfl

theorem trimEnd_append_blank
    (text : List Char)
    {blank : List Char}
    (allBlank : ∀ c ∈ blank, isBlank c = true) :
    trimEnd (text ++ blank) = trimEnd text := by
  unfold trimEnd
  rw [List.reverse_append, List.dropWhile_append_of_pos]
  intro c isIn
  exact allBlank c (List.mem_reverse.mp isIn)

/-- What is left without some characters at the end comes first in the text. -/
theorem reverse_dropWhile_isPrefix
    (drops : Char → Bool)
    (text : List Char) :
    (text.reverse.dropWhile drops).reverse <+: text := by
  have behind := List.reverse_prefix.mpr (List.dropWhile_suffix drops (l := text.reverse))
  rwa [List.reverse_reverse] at behind

theorem trimEnd_isPrefix (text : List Char) : trimEnd text <+: text :=
  reverse_dropWhile_isPrefix isBlank text

theorem hasNoBreak_of_isPrefix
    {first text : List Char}
    (isFirst : first <+: text)
    (noBreak : HasNoBreak text) :
    HasNoBreak first :=
  fun c isIn => noBreak c (isFirst.subset isIn)

/-- What is left of a break in the own text of its line is blank, and is no CR or LF. -/
theorem blank_of_isBreak
    {ending : List Char}
    (isBreak : IsBreak ending) :
    ∀ c ∈ withoutReturn ending, isBlank c = true ∧ isReturn c = false := by
  rcases isBreak with rfl | ⟨c, isBreak, rfl⟩
  · simp [withoutReturn, isReturn]
  · rw [withoutReturn_cons]
    cases returns : isReturn c with
    | true =>
        simp [withoutReturn]
    | false =>
        simp [withoutReturn, returns, isBlank_of_isLineBreak isBreak]

theorem own_isPrefix (line : List Char) : withoutReturn line <+: line :=
  reverse_dropWhile_isPrefix isReturn line

theorem own_of_last
    {text line : List Char}
    {ended : List (List Char)}
    (shape : lines text = ended ++ [line]) :
    withoutReturn line = line := by
  have parts := lines_eq text
  rw [shape] at parts
  obtain ⟨_, isOpen⟩ := List.append_inj' parts rfl
  rw [List.singleton_inj.mp isOpen]
  have whole := withoutReturn_append (openLine_hasNoBreak text) []
  rwa [List.append_nil, show withoutReturn [] = [] from rfl, List.append_nil] at whole

section Line

variable
  {text line : List Char}
  {ended later : List (List Char)}
  (shape : lines text = ended ++ line :: later)

include shape

theorem own_hasNoReturn : ∀ c ∈ withoutReturn line, isReturn c = false := by
  obtain ⟨body, ending, rfl, noBreak, isEnding⟩ := exists_body shape
  rw [withoutReturn_append noBreak]
  intro c isIn
  rcases List.mem_append.mp isIn with inBody | inEnding
  · have isNone := noBreak c inBody
    simp_all [isLineBreak, isReturn]
  · rcases isEnding with isBreak | ⟨rfl, _⟩
    · exact (blank_of_isBreak isBreak c inEnding).2
    · simp [withoutReturn] at inEnding

/-- What is kept of a line has no break, and comes before the line's end if one follows. -/
theorem kept_in_line :
    HasNoBreak (trimEnd (withoutReturn line)) ∧
      ((trimEnd (withoutReturn line)).length < line.length ∨ later = []) := by
  obtain ⟨body, ending, rfl, noBreak, isEnding⟩ := exists_body shape
  rw [withoutReturn_append noBreak]
  rcases isEnding with isBreak | ⟨rfl, isLast⟩
  · rw [trimEnd_append_blank body fun c isIn => (blank_of_isBreak isBreak c isIn).1]
    have shorter := (trimEnd_isPrefix body).length_le
    refine ⟨hasNoBreak_of_isPrefix (trimEnd_isPrefix body) noBreak, .inl ?_⟩
    have someBreak : 0 < ending.length := by
      rcases isBreak with rfl | ⟨c, _, rfl⟩ <;> simp
    rw [List.length_append]
    omega
  · refine ⟨?_, .inr isLast⟩
    rw [show withoutReturn [] = [] from rfl, List.append_nil]
    exact hasNoBreak_of_isPrefix (trimEnd_isPrefix body) noBreak

end Line

/-- A text cut up around the blanks at the end of the own text of a line. -/
structure EndsBlank
    (text : List Char)
    (number : Nat)
    (before blanks after : List Char) : Prop where
  text_eq : text = before ++ blanks ++ after
  /-- What comes before the blanks goes on to the line. -/
  counted : breakCount before = number
  starts : lineStartIn text number + (openLine before).length = before.length
  apartBefore : joinsBreak before blanks = false
  apartAfter : joinsBreak (before ++ blanks) after = false
  last : number = breakCount text → after = []

/-- Before a text without CR and LF no break comes about. -/
theorem joinsBreak_of_noReturn
    (before : List Char)
    {after : List Char}
    (noReturn : ∀ c ∈ after, isReturn c = false) :
    joinsBreak before after = false := by
  cases after with
  | nil =>
      exact joinsBreak_nil before
  | cons c rest =>
      have first := noReturn c List.mem_cons_self
      simp_all [joinsBreak, isReturn]

theorem joinsBreak_append_of_noReturn
    (before : List Char)
    {text : List Char}
    (someText : text ≠ [])
    (noReturn : ∀ c ∈ text, isReturn c = false)
    (after : List Char) :
    joinsBreak (before ++ text) after = false := by
  have last := noReturn _ (List.getLast_mem someText)
  unfold joinsBreak
  rw [List.getLast?_append, List.getLast?_eq_some_getLast someText]
  simp_all [isReturn]

/-- A line can be cut up around the end of its own text if what is kept comes before its end. -/
theorem endsBlank_of_shape
    {text kept blanks ending : List Char}
    {ended later : List (List Char)}
    (shape : lines text = ended ++ (kept ++ blanks ++ ending) :: later)
    (own : withoutReturn (kept ++ blanks ++ ending) = kept ++ blanks)
    (inLine : kept.length < (kept ++ blanks ++ ending).length ∨ later = []) :
    EndsBlank text ended.length (ended.flatten ++ kept) blanks (ending ++ later.flatten) := by
  have noReturn := own_hasNoReturn shape
  rw [own] at noReturn
  have cut : text = (ended.flatten ++ kept) ++ (blanks ++ (ending ++ later.flatten)) := by
    rw [← flatten_lines text, shape]
    simp
  have place : ended.flatten.length + kept.length = (ended.flatten ++ kept).length := by
    rw [List.length_append]
  have onLine := onLine_of_shape shape (by simp only [List.length_append]; omega) inLine
  rw [place] at onLine
  have apart :
      joinsBreak (ended.flatten ++ kept) (blanks ++ (ending ++ later.flatten)) = false := by
    have splits := onLine.own.mp (by rw [own, List.length_append, List.length_append]; omega)
    rwa [splitsBreak, cut, List.take_left, List.drop_left] at splits
  have counted : breakCount (ended.flatten ++ kept) = ended.length := by
    have located := lineOfIn_append (ended.flatten ++ kept) (blanks ++ (ending ++ later.flatten))
    rw [lostBreaks, apart, ← cut, onLine.lineOf_eq] at located
    exact located.symm
  have sameEnded : endedLines (ended.flatten ++ kept) = ended := by
    have both := lines_append apart
    rw [← cut, shape] at both
    exact (List.append_inj_left both (by rw [length_endedLines, counted])).symm
  exact
    { text_eq := by
        rw [cut]
        simp
      counted := counted
      starts := by
        have starts : lineStartIn text ended.length = ended.flatten.length := by
          rw [lineStartIn, shape, List.take_left]
        rw [starts, length_eq (ended.flatten ++ kept), sameEnded]
      apartBefore :=
        joinsBreak_of_noReturn _ fun c isIn => noReturn c (List.mem_append_right kept isIn)
      apartAfter := by
        by_cases someText : kept ++ blanks = []
        · obtain ⟨rfl, rfl⟩ := List.append_eq_nil_iff.mp someText
          simpa using apart
        · rw [List.append_assoc]
          exact joinsBreak_append_of_noReturn _ someText noReturn _
      last := by
        intro isLast
        have noLater : later = [] := by
          have lineCount := length_lines text
          rw [shape, List.length_append, List.length_cons] at lineCount
          exact List.length_eq_zero_iff.mp (by omega)
        rw [noLater] at shape
        have whole := own_of_last shape
        rw [own] at whole
        have noEnding : ending = [] := by
          simpa using whole
        rw [noEnding, noLater]
        rfl }

/-- The line of a place can be cut up around the blanks at the end of its own text. -/
theorem OnLine.endsBlank
    {text line : List Char}
    {place : Nat}
    {ended later : List (List Char)}
    (onLine : OnLine text place ended line later) :
    EndsBlank text ended.length
      (text.take (ended.flatten.length + (trimEnd (withoutReturn line)).length))
      ((withoutReturn line).drop (trimEnd (withoutReturn line)).length)
      (text.drop (ended.flatten.length + (withoutReturn line).length)) := by
  have shape := onLine.lines_eq
  obtain ⟨_, inLine⟩ := kept_in_line shape
  obtain ⟨blanks, own⟩ := trimEnd_isPrefix (withoutReturn line)
  obtain ⟨ending, whole⟩ := own_isPrefix line
  generalize trimEnd (withoutReturn line) = kept at own inLine
  have ownText : withoutReturn line = kept ++ blanks := own.symm
  have lineText : line = kept ++ blanks ++ ending := by
    rw [own, whole]
  have cut : text = (ended.flatten ++ kept) ++ (blanks ++ (ending ++ later.flatten)) := by
    rw [← flatten_lines text, shape, lineText]
    simp
  have before : text.take (ended.flatten.length + kept.length) = ended.flatten ++ kept := by
    rw [cut, ← List.length_append, List.take_left]
  have after :
      text.drop (ended.flatten.length + (withoutReturn line).length) =
        ending ++ later.flatten := by
    rw [cut, ownText, ← List.append_assoc (ended.flatten ++ kept), List.append_assoc ended.flatten,
      ← List.length_append, List.drop_left]
  rw [before, after, ownText, List.drop_left]
  rw [lineText] at shape ownText inLine
  exact endsBlank_of_shape shape ownText inLine

namespace EndsBlank

variable
  {text before blanks after : List Char}
  {number : Nat}

theorem breakCount_eq (endsBlank : EndsBlank text number before blanks after) :
    breakCount text = number + breakCount blanks + breakCount after := by
  have outer := breakCount_append (before ++ blanks) after
  have inner := breakCount_append before blanks
  rw [lostBreaks, endsBlank.apartAfter, ← endsBlank.text_eq] at outer
  rw [lostBreaks, endsBlank.apartBefore, endsBlank.counted] at inner
  simp only [Bool.false_eq_true, if_false, Nat.add_zero] at outer inner
  omega

theorem lines_of_breakCount_eq_zero
    {text : List Char}
    (noBreak : breakCount text = 0) :
    lines text = [text] := by
  have none : endedLines text = [] := by
    rw [← List.length_eq_zero_iff, length_endedLines, noBreak]
  have whole := flatten_lines text
  rw [lines_eq, none] at whole ⊢
  simpa using whole

theorem lines_text
    (endsBlank : EndsBlank text number before blanks after)
    (noBreak : breakCount blanks = 0)
    {first : List Char}
    {later : List (List Char)}
    (shape : lines after = first :: later) :
    lines text = endedLines before ++ (openLine before ++ blanks ++ first) :: later := by
  have together : lines (before ++ blanks) = endedLines before ++ [openLine before ++ blanks] := by
    rw [lines_append endsBlank.apartBefore, lines_of_breakCount_eq_zero noBreak]
    rfl
  have parts := lines_eq (before ++ blanks)
  rw [together] at parts
  obtain ⟨sameEnded, sameOpen⟩ := List.append_inj' parts rfl
  rw [endsBlank.text_eq, lines_append endsBlank.apartAfter, ← sameEnded, shape,
    ← List.singleton_inj.mp sameOpen]
  rfl

theorem lines_stripped
    (apart : joinsBreak before after = false)
    {first : List Char}
    {later : List (List Char)}
    (shape : lines after = first :: later) :
    lines (before ++ after) = endedLines before ++ (openLine before ++ first) :: later := by
  rw [lines_append apart, shape]
  rfl

theorem others_kept
    (endsBlank : EndsBlank text number before blanks after)
    (noBreak : breakCount blanks = 0)
    (apart : joinsBreak before after = false)
    {other : Nat}
    (isOther : other ≠ number) :
    (lines (before ++ after))[other]? = (lines text)[other]? := by
  obtain ⟨first, later, shape⟩ := List.exists_cons_of_ne_nil (lines_ne_nil after)
  have counted : (endedLines before).length = number := by
    rw [length_endedLines, endsBlank.counted]
  have stripped :
      lines (before ++ after) = (lines text).set number (openLine before ++ first) := by
    rw [endsBlank.lines_text noBreak shape, lines_stripped apart shape,
      List.set_append_right _ _ (Nat.le_of_eq counted), counted, Nat.sub_self, List.set_cons_zero]
  rw [stripped, List.getElem?_set_ne isOther.symm]

/-- If the other lines stay there are as many lines as before. -/
theorem lineCount_kept
    (endsBlank : EndsBlank text number before blanks after)
    (othersKept :
      ∀ other, other ≠ number → (lines (before ++ after))[other]? = (lines text)[other]?) :
    breakCount (before ++ after) = breakCount text := by
  have together := breakCount_append before after
  have lost := lostBreaks_le_breakCount before after
  have whole := endsBlank.breakCount_eq
  have counted := endsBlank.counted
  have stripped := length_lines (before ++ after)
  have original := length_lines text
  rcases Nat.lt_trichotomy (breakCount (before ++ after)) (breakCount text) with
    fewer | same | more
  · have kept := othersKept (breakCount (before ++ after) + 1) (by omega)
    rw [List.getElem?_eq_none (by omega), List.getElem?_eq_getElem (by omega)] at kept
    contradiction
  · exact same
  · have kept := othersKept (breakCount text + 1) (by omega)
    rw [List.getElem?_eq_none (l := lines text) (by omega), List.getElem?_eq_getElem (by omega)]
      at kept
    contradiction

/-- The other lines stay exactly if no break goes with the blanks, and none is joined. -/
theorem others_kept_iff (endsBlank : EndsBlank text number before blanks after) :
    (∀ other, other ≠ number → (lines (before ++ after))[other]? = (lines text)[other]?) ↔
      breakCount blanks = 0 ∧ joinsBreak before after = false := by
  constructor
  · intro othersKept
    have same := endsBlank.lineCount_kept othersKept
    have together := breakCount_append before after
    rw [same, endsBlank.breakCount_eq, endsBlank.counted, lostBreaks] at together
    cases joined : joinsBreak before after with
    | false =>
        rw [joined, if_neg Bool.false_ne_true] at together
        exact ⟨by omega, rfl⟩
    | true =>
        rw [joined, if_pos rfl] at together
        omega
  · rintro ⟨noBreak, apart⟩ other isOther
    exact endsBlank.others_kept noBreak apart isOther

theorem lineStart_kept
    (endsBlank : EndsBlank text number before blanks after)
    (apart : joinsBreak before after = false) :
    lineStartIn (before ++ after) number = lineStartIn text number := by
  obtain ⟨first, later, shape⟩ := List.exists_cons_of_ne_nil (lines_ne_nil after)
  have counted : (endedLines before).length = number := by
    rw [length_endedLines, endsBlank.counted]
  have starts := endsBlank.starts
  have whole := length_eq before
  rw [lineStartIn, lines_stripped apart shape, ← counted, List.take_left, counted]
  omega

/-- A place that is kept lies on the same line, and at the same column, as before. -/
theorem lineOf_kept
    (endsBlank : EndsBlank text number before blanks after)
    (apart : joinsBreak before after = false)
    {place : Nat}
    (starts : lineStartIn text number ≤ place)
    (isKept : place ≤ before.length) :
    lineOfIn (before ++ after) place = number := by
  obtain ⟨first, later, shape⟩ := List.exists_cons_of_ne_nil (lines_ne_nil after)
  have onLine := onLine_of_apart apart shape
  have counted : (endedLines before).length = number := by
    rw [length_endedLines, endsBlank.counted]
  have located := onLine.lineOf_eq.trans counted
  have inText : before.length ≤ (before ++ after).length := by
    simp
  have isLine := onLine.breakCount_eq
  apply lineOfIn_eq (Nat.le_trans isKept inText)
  · rw [endsBlank.lineStart_kept apart]
    exact starts
  · omega
  · rcases Nat.lt_or_ge number (breakCount (before ++ after)) with notLast | isLast
    · left
      have next := lt_lineStartIn_succ inText (by omega)
      rw [located] at next
      omega
    · right
      omega

/--
Where the cursor is pulled back into the text, it stays on its line, and within what is
kept of that, exactly if it was there before or the line is the last one.
-/
theorem cursor_kept_iff
    (endsBlank : EndsBlank text number before blanks after)
    (noBreak : breakCount blanks = 0)
    (apart : joinsBreak before after = false)
    {place arrival : Nat}
    (starts : lineStartIn text number ≤ place)
    (pulledBack : arrival = min place (before ++ after).length) :
    (lineOfIn (before ++ after) arrival = number ∧
        arrival - lineStartIn (before ++ after) number =
          min (place - lineStartIn text number) (openLine before).length) ↔
      place - lineStartIn text number ≤ (openLine before).length ∨
        number = breakCount text := by
  have kept := endsBlank.starts
  have start := endsBlank.lineStart_kept apart
  have counted := endsBlank.breakCount_eq
  rw [List.length_append] at pulledBack
  constructor
  · rintro ⟨_, sameColumn⟩
    rcases Nat.lt_or_ge 0 after.length with someText | noText
    · -- Behind what is kept there is text, so the cursor is not pulled back to its end.
      left
      rw [start] at sameColumn
      omega
    · right
      rw [List.length_eq_zero_iff.mp (Nat.le_zero.mp noText), breakCount_nil] at counted
      omega
  · intro fits
    have isKept : arrival ≤ before.length := by
      rcases fits with isKept | isLast
      · omega
      · rw [endsBlank.last isLast, List.length_nil] at pulledBack
        omega
    refine ⟨endsBlank.lineOf_kept apart (by omega) isKept, ?_⟩
    rw [start]
    omega

end EndsBlank

end ChordEditor.Text
