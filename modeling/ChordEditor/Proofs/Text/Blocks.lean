import ChordEditor.Proofs.Text.Stripping

namespace ChordEditor.Text

/-!
# Blocks of lines taken out of a text

A text can be cut before each of its lines without a break being split, so the lines of
the parts are the lines of the text (`CutBetween`).  When a block of lines is taken out
the others stay as they are, unless a CR before the block comes to stand before a LF
behind it.  What a block is kept as, each line's own text with a LF behind it, is the
text of the block with its breaks made LF (`withNewlines`).
-/

/-- What is known of a text that is cut between two of its lines. -/
structure CutBetween (earlier later : List (List Char)) : Prop where
  ended : endedLines earlier.flatten = earlier
  isOpen : openLine earlier.flatten = []
  apart : joinsBreak earlier.flatten later.flatten = false
  lines_eq : lines later.flatten = later

theorem modifyHead_nil_append (own : List (List Char)) :
    own.modifyHead (([] : List Char) ++ ·) = own := by
  cases own <;> rfl

/-- An item that exists can be cut out, and changed where it is. -/
theorem exists_parts_of_lt
    {items : List α}
    {number : Nat}
    (isItem : number < items.length) :
    ∃ earlier item later,
      items = earlier ++ item :: later ∧ earlier.length = number ∧
        ∀ change, items.modify number change = earlier ++ change item :: later := by
  refine ⟨items.take number, items[number], items.drop (number + 1), ?_, ?_, ?_⟩
  · rw [List.getElem_cons_drop, List.take_append_drop]
  · rw [List.length_take]
    omega
  · intro change
    exact List.modify_eq_take_cons_drop isItem

/-- A line that exists can be cut out. -/
theorem exists_shape_of_lt
    {text : List Char}
    {number : Nat}
    (isLine : number < (lines text).length) :
    ∃ earlier line later,
      lines text = earlier ++ line :: later ∧ earlier.length = number ∧
        ∀ change, (lines text).modify number change = earlier ++ change line :: later :=
  exists_parts_of_lt isLine

/-- Before each of its lines a text can be cut. -/
theorem cutBetween
    {text : List Char}
    {earlier later : List (List Char)}
    (shape : lines text = earlier ++ later)
    (someLine : later ≠ []) :
    CutBetween earlier later := by
  obtain ⟨line, others, rfl⟩ := List.exists_cons_of_ne_nil someLine
  have cut : text = earlier.flatten ++ (line :: others).flatten := by
    rw [← flatten_lines text, shape, List.flatten_append]
  -- Only the last line can be without a character, and then the cut is at the text's end.
  have stops : 0 < line.length ∨ others = [] := by
    obtain ⟨body, ending, rfl, _, isBreak | ⟨_, isLast⟩⟩ := exists_body shape
    · left
      rcases isBreak with rfl | ⟨c, _, rfl⟩ <;> simp
    · exact .inr isLast
  have onLine := onLine_of_shape shape (Nat.zero_le _) stops
  rw [Nat.add_zero] at onLine
  have apart : joinsBreak earlier.flatten (line :: others).flatten = false := by
    have splits := onLine.own.mp (Nat.le_add_right _ _)
    rwa [splitsBreak, cut, List.take_left, List.drop_left] at splits
  have counted : (endedLines earlier.flatten).length = earlier.length := by
    have located := lineOfIn_append earlier.flatten (line :: others).flatten
    rw [lostBreaks, apart, ← cut, onLine.lineOf_eq] at located
    rw [length_endedLines]
    exact located.symm
  have together := lines_append apart
  rw [← cut, shape] at together
  obtain ⟨ended, behind⟩ := List.append_inj together counted.symm
  have isOpen : openLine earlier.flatten = [] := by
    have whole := length_eq earlier.flatten
    rw [← ended] at whole
    exact List.length_eq_zero_iff.mp (by omega)
  rw [isOpen, modifyHead_nil_append] at behind
  exact ⟨ended.symm, isOpen, apart, behind.symm⟩

/-- The lines of two parts that are put together again, where no CR LF comes about. -/
theorem lines_of_parts
    {earlier later : List (List Char)}
    (ended : endedLines earlier.flatten = earlier)
    (isOpen : openLine earlier.flatten = [])
    {after : List Char}
    (apart : joinsBreak earlier.flatten after = false)
    (behind : lines after = later) :
    lines (earlier.flatten ++ after) = earlier ++ later := by
  rw [lines_append apart, ended, isOpen, modifyHead_nil_append, behind]

/-- The other lines stay when a block is taken out from before some line. -/
theorem lines_without_block
    {text : List Char}
    {earlier block later : List (List Char)}
    (shape : lines text = earlier ++ (block ++ later))
    (someLine : later ≠ [])
    (apart : joinsBreak earlier.flatten later.flatten = false) :
    lines (earlier.flatten ++ later.flatten) = earlier ++ later := by
  have before := cutBetween shape (List.append_ne_nil_of_right_ne_nil block someLine)
  have behind := cutBetween (shape.trans (List.append_assoc ..).symm) someLine
  exact lines_of_parts before.ended before.isOpen apart behind.lines_eq

theorem lines_of_hasNoBreak
    {text : List Char}
    (noBreak : HasNoBreak text) :
    lines text = [text] := by
  induction text with
  | nil =>
      rfl
  | cons c rest inductionHypothesis =>
      obtain ⟨notBreak, others⟩ := (hasNoBreak_cons c rest).mp noBreak
      rw [lines_cons, inductionHypothesis others, endsLine, notBreak]
      rfl

/-- The lines before a block stay when it is taken out with the break before it. -/
theorem lines_without_last_block
    {text previous : List Char}
    {earlier block : List (List Char)}
    (shape : lines text = earlier ++ previous :: block)
    (plain : HasNoBreak (withoutReturn previous)) :
    lines (earlier.flatten ++ withoutReturn previous) =
      earlier ++ [withoutReturn previous] := by
  have cut := cutBetween shape (List.cons_ne_nil previous block)
  have apart : joinsBreak earlier.flatten (withoutReturn previous) = false :=
    joinsBreak_of_noReturn _ (own_hasNoReturn shape)
  exact lines_of_parts cut.ended cut.isOpen apart (lines_of_hasNoBreak plain)

theorem hasNoBreak_of_last
    {text line : List Char}
    {ended : List (List Char)}
    (shape : lines text = ended ++ [line]) :
    HasNoBreak line := by
  have parts := lines_eq text
  rw [shape] at parts
  obtain ⟨_, isOpen⟩ := List.append_inj' parts rfl
  rw [List.singleton_inj.mp isOpen]
  exact openLine_hasNoBreak text

/-- A line that ends in LF, CR or CR LF, or the last one: its own text is all before that. -/
theorem line_of_plain
    {text line : List Char}
    {ended later : List (List Char)}
    (shape : lines text = ended ++ line :: later)
    (plain : HasNoBreak (withoutReturn line)) :
    ∃ ending,
      line = withoutReturn line ++ ending ∧
        (ending = ['\n'] ∨ ending = ['\r'] ∨ ending = ['\r', '\n'] ∨
          ending = [] ∧ later = []) := by
  obtain ⟨body, ending, rfl, noBreak, isEnding⟩ := exists_body shape
  rw [withoutReturn_append noBreak] at plain ⊢
  rcases isEnding with isBreak | ⟨rfl, isLast⟩
  · rcases isBreak with rfl | ⟨c, isBreak, rfl⟩
    · exact ⟨['\r', '\n'], by simp [withoutReturn, isReturn], by simp⟩
    · cases returns : isReturn c with
      | true =>
          have isNewlineOrReturn : c = '\n' ∨ c = '\r' := by
            simpa [isReturn] using returns
          refine ⟨[c], by simp [withoutReturn, returns], ?_⟩
          rcases isNewlineOrReturn with rfl | rfl <;> simp
      | false =>
          have isOwn : c ∈ body ++ withoutReturn [c] := by
            simp [withoutReturn, returns]
          have isNone := plain c isOwn
          rw [isBreak] at isNone
          contradiction
  · exact ⟨[], by simp [withoutReturn], by simp [isLast]⟩

section Newlines

/-- A text with every CR LF, and every other CR, made a LF. -/
def withNewlines : List Char → List Char
  | [] => []
  | '\r' :: '\n' :: rest => '\n' :: withNewlines rest
  | c :: rest => (if c = '\r' then '\n' else c) :: withNewlines rest

/-- A character that is no CR before a LF is made a LF if it is a CR. -/
theorem withNewlines_cons
    {c : Char}
    {rest : List Char}
    (notCrlf : ∀ later, c = '\r' → rest = '\n' :: later → False) :
    withNewlines (c :: rest) = (if c = '\r' then '\n' else c) :: withNewlines rest :=
  withNewlines.eq_3 c rest notCrlf

/-- Making the breaks LF changes a text exactly if it has a CR. -/
theorem withNewlines_eq_iff (text : List Char) :
    withNewlines text = text ↔ '\r' ∉ text := by
  fun_induction withNewlines text with
  | case1 => simp
  | case2 rest inductionHypothesis => simp
  | case3 c rest notCrlf inductionHypothesis =>
      by_cases isReturn : c = '\r'
      · simp [isReturn]
      · simp [isReturn, inductionHypothesis, Ne.symm isReturn]

theorem withNewlines_append_of_hasNoBreak
    {body : List Char}
    (noBreak : HasNoBreak body)
    (rest : List Char) :
    withNewlines (body ++ rest) = body ++ withNewlines rest := by
  induction body with
  | nil =>
      rfl
  | cons c body inductionHypothesis =>
      obtain ⟨notBreak, others⟩ := (hasNoBreak_cons c body).mp noBreak
      have notReturn : c ≠ '\r' := by
        rintro rfl
        simp [isLineBreak] at notBreak
      rw [List.cons_append, withNewlines_cons fun _ isReturn _ => notReturn isReturn,
        if_neg notReturn, inductionHypothesis others]
      rfl

/-- A break that is not split from a LF behind it is made one LF. -/
theorem withNewlines_ending
    {ending rest : List Char}
    (isEnding : ending = ['\n'] ∨ ending = ['\r'] ∨ ending = ['\r', '\n'])
    (apart : joinsBreak ending rest = false) :
    withNewlines (ending ++ rest) = '\n' :: withNewlines rest := by
  rcases isEnding with rfl | rfl | rfl
  · exact withNewlines_cons nofun
  · apply withNewlines_cons
    rintro later _ rfl
    simp [joinsBreak] at apart
  · rfl

/-- What a block of lines is kept as: a LF behind the own text of each line. -/
def kept (block : List (List Char)) : List Char :=
  block.flatMap fun line => withoutReturn line ++ ['\n']

@[simp]
theorem kept_cons
    (line : List Char)
    (block : List (List Char)) :
    kept (line :: block) = withoutReturn line ++ '\n' :: kept block := by
  simp [kept]

/-- A block of lines is kept as its text with the breaks made LF. -/
theorem withNewlines_block
    {text rest : List Char}
    {block later : List (List Char)}
    (shape : lines text = block ++ later)
    (someLine : later ≠ [])
    (plain : ∀ line ∈ block, HasNoBreak (withoutReturn line))
    (follows : rest <+: later.flatten) :
    withNewlines (block.flatten ++ rest) = kept block ++ withNewlines rest := by
  induction block generalizing text with
  | nil =>
      rfl
  | cons line block inductionHypothesis =>
      have shape' : lines text = [line] ++ (block ++ later) := shape
      have someOther : block ++ later ≠ [] :=
        List.append_ne_nil_of_right_ne_nil block someLine
      have cut := cutBetween shape' someOther
      have others :=
        inductionHypothesis cut.lines_eq fun other isOther =>
          plain other (List.mem_cons_of_mem line isOther)
      have isFirst : lines text = [] ++ line :: (block ++ later) := shape
      obtain ⟨ending, whole, isEnding⟩ :=
        line_of_plain isFirst (plain line List.mem_cons_self)
      have isBreak : ending = ['\n'] ∨ ending = ['\r'] ∨ ending = ['\r', '\n'] := by
        rcases isEnding with isNewline | isReturn | isBoth | ⟨_, isLast⟩
        · exact .inl isNewline
        · exact .inr (.inl isReturn)
        · exact .inr (.inr isBoth)
        · exact absurd isLast someOther
      -- The rest of the block begins as the rest of the text does, so it begins with no LF.
      have apart : joinsBreak ending (block.flatten ++ rest) = false := by
        have isPrefix : block.flatten ++ rest <+: (block ++ later).flatten := by
          rw [List.flatten_append]
          exact (List.prefix_append_right_inj _).mpr follows
        have uncut := cut.apart
        rw [List.flatten_singleton, whole] at uncut
        cases behind : block.flatten ++ rest with
        | nil =>
            exact joinsBreak_nil ending
        | cons c others =>
            rw [behind] at isPrefix
            obtain ⟨more, same⟩ := isPrefix
            rw [← same] at uncut
            rcases isBreak with rfl | rfl | rfl
            · simp [joinsBreak]
            · simpa [joinsBreak] using uncut
            · simp [joinsBreak]
      have parts :
          (line :: block).flatten ++ rest =
            withoutReturn line ++ (ending ++ (block.flatten ++ rest)) := by
        rw [List.flatten_cons, ← List.append_assoc (withoutReturn line), ← whole,
          List.append_assoc]
      rw [parts, withNewlines_append_of_hasNoBreak (plain line List.mem_cons_self),
        withNewlines_ending isBreak apart, others, kept_cons, List.append_assoc,
        List.cons_append]

/-- A block at the end, with the break before it, is kept in the order LF, line, LF, line. -/
theorem withNewlines_last_block
    {text previous last ending : List Char}
    {earlier block : List (List Char)}
    (shape : lines text = earlier ++ (previous :: block ++ [last]))
    (plain : ∀ line ∈ previous :: block, HasNoBreak (withoutReturn line))
    (whole : previous = withoutReturn previous ++ ending) :
    withNewlines (ending ++ (block ++ [last]).flatten) =
      '\n' :: (kept (block ++ [last])).dropLast := by
  have plainPrevious := plain previous List.mem_cons_self
  have lastShape : lines text = (earlier ++ previous :: block) ++ [last] := by
    rw [shape, List.append_assoc]
  have noReturn : withNewlines last = last := by
    rw [withNewlines_eq_iff]
    intro isReturn
    have isBreak := hasNoBreak_of_last lastShape '\r' isReturn
    simp [isLineBreak] at isBreak
  have keptBlock : (kept (block ++ [last])).dropLast = kept block ++ last := by
    unfold kept
    rw [List.flatMap_append, List.flatMap_singleton, own_of_last lastShape,
      ← List.append_assoc, List.dropLast_concat]
  have cut := cutBetween shape (by simp)
  have made :=
    withNewlines_block cut.lines_eq (List.cons_ne_nil last []) plain
      (show last <+: [last].flatten by simp)
  have parts :
      (previous :: block).flatten ++ last =
        withoutReturn previous ++ (ending ++ (block ++ [last]).flatten) := by
    rw [← List.append_assoc (withoutReturn previous), ← whole]
    simp
  rw [parts, withNewlines_append_of_hasNoBreak plainPrevious, noReturn, kept_cons,
    List.append_assoc, List.cons_append] at made
  rw [keptBlock]
  exact List.append_cancel_left made

end Newlines

end ChordEditor.Text
