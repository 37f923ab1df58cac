import ChordEditor.Proofs.Buffer.OwnText
import ChordEditor.Proofs.Buffer.WordAt
import ChordEditor.Proofs.Commands.Actions
import ChordEditor.Proofs.Commands.Enclosing
import ChordEditor.Proofs.Commands.TypedText
import ChordEditor.Proofs.Text.ChangedLines
import ChordEditor.Proofs.Text.CodePoints

namespace ChordEditor

/-!
# Words put between delimiters, and taken out again

A word gets a delimiter on either side, and the cursor keeps its place in the word or right
behind it (`surroundWord_leaves`).

The delimiters to be deleted are looked for on the line of the cursor.  Brackets are found
from within the word and from behind it, and equal marks from within it alone
(`enclosingPair?_around`): behind the word the right one is under the cursor and is taken
for the left one (`left_eq_of_mark_at_cursor`).  Marks that end lines are never found, for
there is one at most in the text of a line.
-/

namespace Editor

/-- A part of a line around the cursor, in the own text of the line. -/
theorem StandsBetween.exists_line_around
    {editor : Editor}
    {before front behind after : List Char}
    (stands : editor.StandsBetween (before ++ front) (behind ++ after))
    (frontNoBreak : Text.HasNoBreak front)
    (behindNoBreak : Text.HasNoBreak behind)
    (someBehind : behind ≠ []) :
    ∃ lead rest,
      editor.buffer.lineText editor.currentLine = lead ++ (front ++ (behind ++ rest)) ∧
        editor.buffer.lineStart editor.currentLine + lead.length = before.length := by
  have partNoBreak := frontNoBreak.append behindNoBreak
  have somePart : front ++ behind ≠ [] := List.append_ne_nil_of_right_ne_nil front someBehind
  obtain ⟨first, more, shape⟩ := List.exists_cons_of_ne_nil (Text.lines_ne_nil after)
  have partLines := Text.lines_append_of_hasNoBreak partNoBreak shape
  -- The part begins with no LF, so that no CR before it makes one break with it.
  have apart : Text.joinsBreak before ((front ++ behind) ++ after) = false := by
    obtain ⟨c, others, isPart⟩ := List.exists_cons_of_ne_nil somePart
    have notNewline : c ≠ '\n' := by
      rintro rfl
      have noBreak := partNoBreak '\n' (by rw [isPart]; exact List.mem_cons_self)
      contradiction
    rw [isPart, Text.joinsBreak]
    simp [notNewline]
  have text : editor.buffer.text = before ++ ((front ++ behind) ++ after) := by
    rw [stands.text]
    simp only [List.append_assoc]
  have textLines :
      Text.lines editor.buffer.text =
        Text.endedLines before ++
          (Text.openLine before ++ ((front ++ behind) ++ first)) :: more := by
    rw [text, Text.lines_append apart, partLines]
    rfl
  have placed := Text.length_eq before
  have someLength := List.length_pos_iff.mpr someBehind
  have onLine : editor.currentLine = (Text.endedLines before).length := by
    have isPlace :
        editor.position =
          (Text.endedLines before).flatten.length +
            ((Text.openLine before).length + front.length) := by
      rw [stands.position, List.length_append]
      omega
    rw [Editor.currentLine, isPlace]
    apply Buffer.lineOf_of_shape textLines
    · simp only [List.length_append]
      omega
    · left
      simp only [List.length_append]
      omega
  refine ⟨Text.openLine before, Text.withoutReturn first, ?_, ?_⟩
  · rw [onLine, Buffer.lineText_of_shape textLines,
      Text.withoutReturn_append (Text.openLine_hasNoBreak before),
      Text.withoutReturn_append partNoBreak, List.append_assoc]
  · rw [onLine, Buffer.lineStart_of_shape textLines]
    exact placed.symm

/-- The cursor stands in a word or right behind it, with a part of the word on either side. -/
structure AtWord
    (editor : Editor)
    (before front behind after : List Char) : Prop where
  stands : editor.StandsBetween (before ++ front) (behind ++ after)
  isSpan :
    editor.buffer.wordSpan? editor.position =
      some ⟨before.length, (before ++ front ++ behind).length⟩
  someChar : front ++ behind ≠ []
  wordChars : ∀ c ∈ front ++ behind, Text.isWordChar c = true

/-- Around a cursor at a word the text is cut up at the word and at the cursor. -/
theorem exists_atWord
    {editor : Editor}
    {span : Span}
    (found : editor.buffer.wordSpan? editor.position = some span) :
    ∃ front behind,
      editor.AtWord (editor.buffer.text.take span.start) front behind
          (editor.buffer.text.drop span.stop) ∧
        front ++ behind = editor.buffer.spanText span ∧
          (behind ≠ [] ↔
            Buffer.hasWordCharAt editor.buffer.text editor.position = true) := by
  have isWord := Buffer.wordSpan_isWord found
  have inText := isWord.inText
  obtain ⟨starts, stops, inside⟩ := Buffer.wordSpan_bounds found
  have ordered := isWord.someChar
  let word := editor.buffer.spanText span
  let into := editor.position - span.start
  have width : word.length = span.stop - span.start := isWord.length_spanText
  have parts : word.take into ++ word.drop into = word := List.take_append_drop into word
  have whole :
      editor.buffer.text =
        editor.buffer.text.take span.start ++ (word ++ editor.buffer.text.drop span.stop) := by
    have front :
        editor.buffer.text.take span.start =
          (editor.buffer.text.take span.stop).take span.start := by
      rw [List.take_take, Nat.min_eq_left (by omega)]
    rw [front, ← List.append_assoc]
    show _ = _ ++ (editor.buffer.text.take span.stop).drop span.start ++ _
    rw [List.take_append_drop, List.take_append_drop]
  have isStart : (editor.buffer.text.take span.start).length = span.start := by
    rw [List.length_take]
    omega
  refine ⟨word.take into, word.drop into, ⟨⟨?_, ?_⟩, ?_, ?_, ?_⟩, parts, ?_⟩
  · rw [List.append_assoc, ← List.append_assoc (word.take into), parts]
    exact whole
  · rw [List.length_append, isStart, List.length_take]
    omega
  · rw [found, List.append_assoc, parts, List.length_append, isStart, width,
      Nat.add_sub_cancel' (Nat.le_of_lt ordered)]
  · rw [parts]
    exact isWord.spanText_ne_nil
  · rw [parts]
    exact fun c isIn => isWord.wordChar isIn
  · rw [← inside, ne_eq, List.drop_eq_nil_iff]
    omega

namespace AtWord

variable
  {editor : Editor}
  {before front behind after : List Char}
  (word : editor.AtWord before front behind after)

include word

/-- The text around a word. -/
theorem text_eq : editor.buffer.text = before ++ (front ++ behind) ++ after := by
  rw [word.stands.text]
  simp only [List.append_assoc]

theorem front_hasNoBreak : Text.HasNoBreak front := fun c isIn =>
  Text.isLineBreak_of_isWordChar (word.wordChars c (List.mem_append_left behind isIn))

theorem behind_hasNoBreak : Text.HasNoBreak behind := fun c isIn =>
  Text.isLineBreak_of_isWordChar (word.wordChars c (List.mem_append_right front isIn))

/-- A character that belongs to no word is not in this one. -/
theorem ne_of_isWordChar_eq_false
    {c other : Char}
    (isIn : c ∈ front ++ behind)
    (notWordChar : Text.isWordChar other = false) :
    c ≠ other := by
  rintro rfl
  rw [word.wordChars c isIn] at notWordChar
  contradiction

end AtWord

end Editor

namespace Commands

open CommandM

section Delimiters

/-- Delimiters are the pair of brackets that a bracket is in, or one character twice. -/
theorem delimiters_cases (c : Char) :
    (delimiters c ∈ bracketPairs ∧ (c = (delimiters c).1 ∨ c = (delimiters c).2)) ∨
      delimiters c = (c, c) := by
  unfold delimiters
  split
  · rename_i isBracket
    exact .inl ⟨by decide, isBracket⟩
  · split
    · rename_i isBracket
      exact .inl ⟨by decide, isBracket⟩
    · split
      · rename_i isBracket
        exact .inl ⟨by decide, isBracket⟩
      · exact .inr rfl

/-- A test that brackets of a pair share gives for delimiters what it gives for the typed one. -/
theorem delimiters_alike
    {test : Char → Bool}
    (alike : ∀ pair ∈ bracketPairs, test pair.1 = test pair.2)
    (c : Char) :
    test (delimiters c).1 = test c ∧ test (delimiters c).2 = test c := by
  rcases delimiters_cases c with ⟨isPair, isTyped⟩ | twice
  · have same := alike _ isPair
    rcases isTyped with isOpening | isClosing
    · rw [← same, ← isOpening]
      exact ⟨rfl, rfl⟩
    · rw [same, ← isClosing]
      exact ⟨rfl, rfl⟩
  · rw [twice]
    exact ⟨rfl, rfl⟩

/-- Delimiters belong to a word, or end a line, as the typed character does. -/
theorem isWordChar_delimiters (c : Char) :
    Text.isWordChar (delimiters c).1 = Text.isWordChar c ∧
      Text.isWordChar (delimiters c).2 = Text.isWordChar c :=
  delimiters_alike (by decide) c

theorem isLineBreak_delimiters (c : Char) :
    Text.isLineBreak (delimiters c).1 = Text.isLineBreak c ∧
      Text.isLineBreak (delimiters c).2 = Text.isLineBreak c :=
  delimiters_alike (by decide) c

/-- Delimiters that look the same are the typed character twice. -/
theorem delimiters_of_same
    {c : Char}
    (same : (delimiters c).1 = (delimiters c).2) :
    delimiters c = (c, c) := by
  have differ : ∀ pair ∈ bracketPairs, pair.1 ≠ pair.2 := by
    decide
  exact (delimiters_cases c).resolve_left fun isBracket => differ _ isBracket.1 same

/-- Delimiters that differ are brackets, which end no line. -/
theorem isLineBreak_of_differ
    {c : Char}
    (differ : (delimiters c).1 ≠ (delimiters c).2) :
    Text.isLineBreak c = false := by
  have plain : ∀ pair ∈ bracketPairs, Text.isLineBreak pair.1 = false := by
    decide
  rcases delimiters_cases c with ⟨isPair, _⟩ | twice
  · rw [← (isLineBreak_delimiters c).1]
    exact plain _ isPair
  · rw [twice] at differ
    exact absurd rfl differ

end Delimiters

section Marks

variable
  {mark : Char}
  {front between rest chars : List Char}
  {column left right : Nat}

/-- The first mark comes behind what has none. -/
theorem idxOf?_append_cons
    (notBetween : mark ∉ between)
    (rest : List Char) :
    (between ++ mark :: rest).idxOf? mark = some between.length := by
  rw [List.idxOf?_eq_some_iff]
  refine ⟨by simp, by simp, ?_⟩
  intro index within isMark
  rw [List.getElem_append_left within] at isMark
  exact notBetween (isMark ▸ List.getElem_mem within)

theorem enclosingMarks?_bind :
    enclosingMarks? chars column mark =
      ((chars.take (column + 1)).reverse.idxOf? mark).bind fun back =>
        ((chars.drop ((chars.take (column + 1)).length - 1 - back + 1)).idxOf? mark).map
          fun offset =>
            ((chars.take (column + 1)).length - 1 - back,
              (chars.take (column + 1)).length - 1 - back + 1 + offset) := by
  unfold enclosingMarks?
  simp only [Option.map_eq_bind]
  rfl

/-- To the left of a column the nearest mark is found, and to the right of it the next one. -/
theorem enclosingMarks?_eq (notBetween : mark ∉ between) :
    enclosingMarks? (front ++ mark :: (between ++ rest)) (front.length + between.length) mark =
      ((between ++ rest).idxOf? mark).map fun offset =>
        (front.length, front.length + 1 + offset) := by
  have taken :
      (front ++ mark :: (between ++ rest)).take (front.length + between.length + 1) =
        front ++ mark :: between := by
    rw [Nat.add_assoc, List.take_length_add_append, List.take_succ_cons, List.take_left]
  have isBack : (front ++ mark :: between).reverse.idxOf? mark = some between.length := by
    have turned : mark ∉ between.reverse := by
      rwa [List.mem_reverse]
    have shape :
        (front ++ mark :: between).reverse = between.reverse ++ mark :: front.reverse := by
      simp
    rw [shape, idxOf?_append_cons turned, List.length_reverse]
  have isLeft : (front ++ mark :: between).length - 1 - between.length = front.length := by
    rw [List.length_append, List.length_cons]
    omega
  rw [enclosingMarks?_bind, taken, isBack, Option.bind_some, isLeft, drop_behind_item rfl]

/-- Two marks around some text are found from within it. -/
theorem enclosingMarks?_within
    {lead behind : List Char}
    (isOther : mark ∉ front ++ behind)
    (someBehind : behind ≠ []) :
    enclosingMarks? (lead ++ mark :: (front ++ (behind ++ mark :: rest)))
        (lead.length + (front.length + 1)) mark =
      some (lead.length, lead.length + 1 + (front ++ behind).length) := by
  -- The scan to the left begins on a character of the text.
  obtain ⟨c, others, rfl⟩ := List.exists_cons_of_ne_nil someBehind
  have notBetween : mark ∉ front ++ [c] := by
    simp_all
  have upTo :
      front ++ (c :: others ++ mark :: rest) = (front ++ [c]) ++ (others ++ mark :: rest) := by
    simp
  have ahead :
      (front ++ [c]) ++ (others ++ mark :: rest) = (front ++ c :: others) ++ mark :: rest := by
    simp
  have isColumn : front.length + 1 = (front ++ [c]).length := by
    rw [List.length_append, List.length_singleton]
  rw [upTo, isColumn, enclosingMarks?_eq notBetween, ahead, idxOf?_append_cons isOther,
    Option.map_some]

/-- Brackets around some text without them are found from within it, and from behind it. -/
theorem enclosingBrackets?_around
    {opening closing : Char}
    {lead behind : List Char}
    (differ : opening ≠ closing)
    (isOther : ∀ c ∈ front ++ behind, c ≠ opening ∧ c ≠ closing) :
    enclosingBrackets? (lead ++ opening :: (front ++ (behind ++ closing :: rest)))
        (lead.length + (front.length + 1)) opening closing =
      some (lead.length, lead.length + 1 + (front ++ behind).length) := by
  have nested {part : List Char} (isPart : part ⊆ front ++ behind) :
      Text.WellNested [(opening, closing)] part := by
    apply Text.WellNested.of_plain
    intro c isIn pair isPair
    rw [List.mem_singleton.mp isPair]
    exact isOther c (isPart isIn)
  have upTo :
      (lead ++ opening :: (front ++ (behind ++ closing :: rest))).take
          (lead.length + (front.length + 1)) =
        lead ++ opening :: front := by
    rw [List.take_length_add_append, List.take_succ_cons, List.take_left]
  have here :
      (lead ++ opening :: (front ++ (behind ++ closing :: rest)))[lead.length +
          (front.length + 1)]? =
        (behind ++ closing :: rest).head? := by
    rw [← List.head?_drop, List.drop_length_add_append, List.drop_succ_cons, List.drop_left]
  have whole :
      lead ++ opening :: (front ++ (behind ++ closing :: rest)) =
        lead ++ opening :: ((front ++ behind) ++ closing :: rest) := by
    rw [List.append_assoc front]
  apply found_of_front differ whole (nested (List.Subset.refl _)) upTo
    (nested (List.subset_append_left front behind))
  rw [here]
  cases behind with
  | nil =>
      exact fun isOpening => differ (Option.some.inj isOpening).symm
  | cons c others =>
      have notOpening := (isOther c (by simp)).1
      exact fun isOpening => notOpening (Option.some.inj isOpening)

/-- The marks that are found are two of the line. -/
theorem marks_of_found
    (found : enclosingMarks? chars column mark = some (left, right)) :
    left < right ∧ chars[left]? = some mark ∧ chars[right]? = some mark := by
  rw [enclosingMarks?_bind] at found
  obtain ⟨back, isBack, found⟩ := Option.bind_eq_some_iff.mp found
  obtain ⟨offset, isOffset, found⟩ := Option.map_eq_some_iff.mp found
  obtain ⟨rfl, rfl⟩ := Prod.mk.inj found
  obtain ⟨backInLine, isMark, _⟩ := List.idxOf?_eq_some_iff.mp isBack
  obtain ⟨aheadInLine, isNext, _⟩ := List.idxOf?_eq_some_iff.mp isOffset
  rw [List.length_reverse] at backInLine
  refine ⟨by omega, ?_, ?_⟩
  · rw [List.getElem_reverse, List.getElem_take] at isMark
    rw [← isMark]
    exact List.getElem?_eq_getElem _
  · rw [← List.getElem?_drop, List.getElem?_eq_getElem aheadInLine, isNext]

end Marks

section Pair

variable
  {editor : Editor}
  {opening closing mark : Char}
  {before front behind after chars : List Char}
  {column left right : Nat}

theorem findEnclosing?_eq (inLine : column < chars.length) :
    findEnclosing? chars column opening closing =
      if opening = closing then
        enclosingMarks? chars column opening
      else
        enclosingBrackets? chars column opening closing := by
  have someLine : chars.isEmpty = false := by
    rw [List.isEmpty_eq_false_iff]
    exact List.ne_nil_of_length_pos (Nat.zero_lt_of_lt inLine)
  unfold findEnclosing?
  rw [someLine, if_neg Bool.false_ne_true]
  dsimp only
  rw [Nat.min_eq_left (by omega)]

/-- Around a cursor in a line, the pair is looked for in the line. -/
theorem enclosingPair?_of_line
    {lead : List Char}
    (isLine : editor.buffer.lineText editor.currentLine = chars)
    (placed : editor.buffer.lineStart editor.currentLine + lead.length = before.length)
    (position : editor.position = before.length + column)
    (inLine : lead.length + column < chars.length) :
    enclosingPair? editor (opening, closing) =
      (if opening = closing then
        enclosingMarks? chars (lead.length + column) opening
      else
        enclosingBrackets? chars (lead.length + column) opening closing).map
        fun (left, right) =>
          (editor.buffer.lineStart editor.currentLine + left,
            editor.buffer.lineStart editor.currentLine + right) := by
  have isColumn :
      editor.position - editor.buffer.lineStart editor.currentLine = lead.length + column := by
    omega
  unfold enclosingPair?
  dsimp only
  rw [isLine, isColumn, findEnclosing?_eq inLine]

/-- The pair around a word is found from within it, and brackets from behind it as well. -/
theorem enclosingPair?_around
    (stands : editor.StandsBetween (before ++ opening :: front) (behind ++ closing :: after))
    (frontNoBreak : Text.HasNoBreak (opening :: front))
    (behindNoBreak : Text.HasNoBreak (behind ++ [closing]))
    (isOther : ∀ c ∈ front ++ behind, c ≠ opening ∧ c ≠ closing)
    (apart : opening ≠ closing ∨ behind ≠ []) :
    enclosingPair? editor (opening, closing) =
      some (before.length, before.length + 1 + (front ++ behind).length) := by
  rw [List.append_cons behind closing after] at stands
  obtain ⟨lead, rest, isLine, placed⟩ :=
    stands.exists_line_around frontNoBreak behindNoBreak (by simp)
  have shape :
      lead ++ ((opening :: front) ++ ((behind ++ [closing]) ++ rest)) =
        lead ++ opening :: (front ++ (behind ++ closing :: rest)) := by
    rw [List.append_assoc behind]
    rfl
  rw [shape] at isLine
  have position : editor.position = before.length + (front.length + 1) := by
    rw [stands.position, List.length_append, List.length_cons]
  have inLine :
      lead.length + (front.length + 1) <
        (lead ++ opening :: (front ++ (behind ++ closing :: rest))).length := by
    simp only [List.length_append, List.length_cons]
    omega
  rw [enclosingPair?_of_line isLine placed position inLine]
  split
  · rename_i same
    subst same
    have notIn : opening ∉ front ++ behind := fun isIn => (isOther _ isIn).1 rfl
    rw [enclosingMarks?_within notIn (apart.resolve_left (not_not_intro rfl)), Option.map_some]
    dsimp only
    rw [← Nat.add_assoc, ← Nat.add_assoc, placed]
  · rename_i differ
    rw [enclosingBrackets?_around differ isOther, Option.map_some]
    dsimp only
    rw [← Nat.add_assoc, ← Nat.add_assoc, placed]

/-- A mark under the cursor is taken for the left one. -/
theorem left_eq_of_mark_at_cursor
    (stands : editor.StandsBetween before (mark :: after))
    (notBreak : Text.isLineBreak mark = false)
    (found : enclosingPair? editor (mark, mark) = some (left, right)) :
    left = before.length := by
  have around : editor.StandsBetween (before ++ []) ([mark] ++ after) := by
    rwa [List.append_nil]
  obtain ⟨lead, rest, isLine, placed⟩ :=
    around.exists_line_around Text.hasNoBreak_nil
      ((Text.hasNoBreak_cons _ _).mpr ⟨notBreak, Text.hasNoBreak_nil⟩) (List.cons_ne_nil _ _)
  have inLine : lead.length + 0 < (lead ++ ([] ++ ([mark] ++ rest))).length := by
    simp
  have position : editor.position = before.length + 0 := stands.position
  rw [enclosingPair?_of_line isLine placed position inLine, if_pos rfl] at found
  have isFirst :
      enclosingMarks? (lead ++ ([] ++ ([mark] ++ rest))) (lead.length + 0) mark =
        (rest.idxOf? mark).map fun offset => (lead.length, lead.length + 1 + offset) :=
    enclosingMarks?_eq (List.not_mem_nil (a := mark))
  rw [isFirst, Option.map_map] at found
  obtain ⟨offset, -, isPair⟩ := Option.map_eq_some_iff.mp found
  have isLeft := (Prod.mk.inj isPair).1
  exact isLeft.symm.trans placed

/-- A line has a break at its end alone, so no two of them are found. -/
theorem enclosingPair?_of_lineBreak (isBreak : Text.isLineBreak mark = true) :
    enclosingPair? editor (mark, mark) = none := by
  rw [Option.eq_none_iff_forall_ne_some]
  intro pair found
  unfold enclosingPair? at found
  obtain ⟨⟨left, right⟩, inLine, -⟩ := Option.map_eq_some_iff.mp found
  unfold findEnclosing? at inLine
  split at inLine
  · contradiction
  · dsimp only at inLine
    rw [if_pos rfl] at inLine
    obtain ⟨ordered, isLeft, isRight⟩ := marks_of_found inLine
    obtain ⟨ended, line, later, shape, isNumber⟩ :=
      Buffer.exists_shape (editor.buffer.lineOf_le_lastLine editor.position)
    change ended.length = editor.currentLine at isNumber
    rw [← isNumber, Buffer.lineText_of_shape shape] at isLeft isRight
    have atEnd := Text.length_own_le_of_isLineBreak shape isLeft isBreak
    have inOwn := (List.getElem?_eq_some_iff.mp isRight).1
    omega

end Pair

section Runs

variable
  {editor : Editor}
  {context : CommandContext}
  {c opening closing mark : Char}
  {before front behind after : List Char}
  {left right : Nat}

/-- A word gets its delimiters, and the cursor keeps its place in the word. -/
theorem surroundWord_leaves
    (word : editor.AtWord before front behind after)
    (isDelimiter : context.literals[0]? = some c)
    (isPair : delimiters c = (opening, closing)) :
    (surroundWord context).LeavesBetween editor (before ++ opening :: front)
      (behind ++ closing :: after) := by
  have whole : editor.buffer.text = (before ++ front ++ behind) ++ after := by
    rw [word.text_eq, ← List.append_assoc before]
  have stopInText : (before ++ front ++ behind).length ≤ editor.buffer.length := by
    rw [Buffer.length, whole]
    simp only [List.length_append]
    omega
  obtain ⟨closed, closes, closedText⟩ := insert_runOn stopInText [closing]
  rw [whole, List.take_left, List.drop_left, List.append_assoc, List.append_assoc,
    List.append_assoc] at closedText
  have startInText :
      before.length ≤ ({ editor with buffer := closed } : Editor).buffer.length := by
    rw [Buffer.length, closedText, List.length_append]
    exact Nat.le_add_right _ _
  obtain ⟨opened, opens, openedText⟩ := insert_runOn startInText [opening]
  rw [closedText, List.take_left, List.drop_left] at openedText
  have bothText : opened.text = (before ++ opening :: front) ++ (behind ++ closing :: after) := by
    rw [openedText]
    simp
  have keepsPlace : editor.position + 1 = (before ++ opening :: front).length := by
    rw [word.stands.position, List.length_append, List.length_append, List.length_cons]
    rfl
  unfold surroundWord LeavesBetween
  rw [runOn_get_bind, isDelimiter, word.isSpan]
  dsimp only
  rw [isPair]
  dsimp only
  rw [runOn_bind_of_ok closes, runOn_bind_of_ok opens, keepsPlace]
  exact ⟨_, rfl, Editor.setCursor_standsBetween bothText⟩

/-- The delimiters that are found around the cursor are taken out of the text. -/
theorem deleteSurround_runOn
    (isDelimiter : context.literals[0]? = some c)
    (found : enclosingPair? editor (delimiters c) = some (left, right)) :
    ∃ last,
      (deleteSurround context).runOn editor = (.ok (), last) ∧
        last.buffer.text =
          editor.buffer.text.take left ++
            ((editor.buffer.text.take right).drop (left + 1) ++
              editor.buffer.text.drop (right + 1)) := by
  obtain ⟨ordered, inText⟩ := enclosingPair_bounds found
  obtain ⟨opened, deletesRight, openedText⟩ := delete_runOn (charSpan_isRange inText)
  change opened.text = editor.buffer.text.take right ++ editor.buffer.text.drop (right + 1)
    at openedText
  have width : (editor.buffer.text.take right).length = right := by
    rw [List.length_take]
    exact Nat.min_eq_left (Nat.le_of_lt inText)
  have leftInText : left < ({ editor with buffer := opened } : Editor).buffer.length := by
    show left < opened.text.length
    rw [openedText, List.length_append, width]
    omega
  obtain ⟨bare, deletesLeft, bareText⟩ := delete_runOn (charSpan_isRange leftInText)
  change bare.text = opened.text.take left ++ opened.text.drop (left + 1) at bareText
  unfold deleteSurround
  rw [runOn_get_bind, isDelimiter, Option.bind_some, found]
  dsimp only
  rw [runOn_bind_of_ok deletesRight, runOn_bind_of_ok deletesLeft]
  refine ⟨_, rfl, ?_⟩
  show bare.text = _
  rw [bareText, openedText, List.take_append_of_le_length (by omega), List.take_take,
    Nat.min_eq_left (Nat.le_of_lt ordered), List.drop_append_of_le_length (by omega)]

/-- Where no delimiters are found, nothing is taken out. -/
theorem deleteSurround_runOn_of_none
    (isDelimiter : context.literals[0]? = some c)
    (notFound : enclosingPair? editor (delimiters c) = none) :
    (deleteSurround context).runOn editor = (.ok (), editor) := by
  unfold deleteSurround
  rw [runOn_get_bind, isDelimiter, Option.bind_some, notFound]
  rfl

/-- The delimiters of a word are taken out again. -/
theorem deleteSurround_restores
    (stands : editor.StandsBetween (before ++ opening :: front) (behind ++ closing :: after))
    (isDelimiter : context.literals[0]? = some c)
    (isPair : delimiters c = (opening, closing))
    (found :
      enclosingPair? editor (opening, closing) =
        some (before.length, before.length + 1 + (front ++ behind).length)) :
    ∃ last,
      (deleteSurround context).runOn editor = (.ok (), last) ∧
        last.buffer.text = before ++ (front ++ behind) ++ after := by
  have whole :
      editor.buffer.text = before ++ opening :: ((front ++ behind) ++ closing :: after) := by
    rw [stands.text]
    simp
  rw [← isPair] at found
  obtain ⟨last, ended, text⟩ := deleteSurround_runOn isDelimiter found
  refine ⟨last, ended, ?_⟩
  have upToRight :
      editor.buffer.text.take (before.length + 1 + (front ++ behind).length) =
        before ++ opening :: (front ++ behind) := by
    rw [whole, Nat.add_assoc, List.take_length_add_append, Nat.add_comm 1, List.take_succ_cons,
      List.take_left]
  have behindRight :
      editor.buffer.text.drop (before.length + 1 + (front ++ behind).length + 1) = after := by
    rw [whole, Nat.add_assoc, Nat.add_assoc, List.drop_length_add_append, Nat.add_comm 1,
      List.drop_succ_cons]
    exact drop_behind_item rfl
  rw [text, upToRight, behindRight, drop_behind_item rfl, whole, List.take_left,
    List.append_assoc before]

/--
The left one of two equal marks around a word stays, if they end lines or if the right one is
under the cursor.
-/
theorem deleteSurround_keeps_left
    (stands : editor.StandsBetween (before ++ mark :: front) (behind ++ mark :: after))
    (isDelimiter : context.literals[0]? = some c)
    (isPair : delimiters c = (mark, mark))
    (misses : Text.isLineBreak mark = true ∨ behind = []) :
    ∃ last,
      (deleteSurround context).runOn editor = (.ok (), last) ∧
        last.buffer.text[before.length]? = some mark := by
  have isLeft : editor.buffer.text[before.length]? = some mark := by
    rw [stands.text]
    simp
  cases found : enclosingPair? editor (delimiters c) with
  | none =>
      exact ⟨editor, deleteSurround_runOn_of_none isDelimiter found, isLeft⟩
  | some pair =>
      obtain ⟨left, right⟩ := pair
      have foundMarks := found
      rw [isPair] at foundMarks
      have notBreak : Text.isLineBreak mark = false := by
        rw [Bool.eq_false_iff]
        intro isBreak
        rw [enclosingPair?_of_lineBreak isBreak] at foundMarks
        contradiction
      obtain rfl := misses.resolve_left (by simp [notBreak])
      obtain rfl := left_eq_of_mark_at_cursor stands notBreak foundMarks
      obtain ⟨last, ended, text⟩ := deleteSurround_runOn isDelimiter found
      refine ⟨last, ended, ?_⟩
      have inFront : before.length < (before ++ mark :: front).length := by
        rw [List.length_append, List.length_cons]
        omega
      have inTaken :
          before.length < (editor.buffer.text.take (before ++ mark :: front).length).length := by
        rwa [stands.text, List.take_left]
      rw [text, List.getElem?_append_left inTaken, List.getElem?_take_of_lt inFront, isLeft]

end Runs

end Commands

end ChordEditor
