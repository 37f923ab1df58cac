import ChordEditor.Proofs.Buffer.Replay
import ChordEditor.Proofs.Text.Breaks

namespace ChordEditor

/-!
# Touched lines cover the changes

A noted range of lines covers a change when the lines before it are the old ones and
so are the lines behind it, counted from the end.  An edit that adds as many lines as
it is noted with is covered by its note, and joining such notes covers all the edits
together.

An edit that splits or joins a CR LF may add fewer or more lines than it is noted
with; `Edit.ShiftsLines` says that it does not.
-/

namespace LineRange

/-- Outside of the range, counted from both ends, the new lines are the old ones. -/
structure Covers
    (range : LineRange)
    (old new : List α) : Prop where
  ordered : range.first ≤ range.last
  inside : range.last < new.length
  room : range.first + new.length ≤ old.length + range.last
  same_before : new.take range.first = old.take range.first
  same_after :
    new.drop (range.last + 1) = old.drop (range.last + 1 + old.length - new.length)

namespace Covers

variable {range touched : LineRange} {old between new : List α}

/-- Any beginning before a covering range is as it was. -/
theorem take_eq
    (covers : range.Covers old new)
    {index : Nat}
    (isBefore : index ≤ range.first) :
    new.take index = old.take index := by
  have shortened := congrArg (List.take index) covers.same_before
  rwa [List.take_take, List.take_take, Nat.min_eq_left isBefore] at shortened

/-- Any end behind a covering range is as it was. -/
theorem drop_eq
    (covers : range.Covers old new)
    {index : Nat}
    (isBehind : range.last < index) :
    new.drop index = old.drop (index + old.length - new.length) := by
  have room := covers.room
  have inside := covers.inside
  have ordered := covers.ordered
  have shortened := congrArg (List.drop (index - (range.last + 1))) covers.same_after
  rw [List.drop_drop, List.drop_drop] at shortened
  rw [show range.last + 1 + (index - (range.last + 1)) = index by omega] at shortened
  rw [shortened]
  congr 1
  omega

/-- A later change joined into the range of an earlier one covers both. -/
theorem merge
    (earlier : range.Covers old between)
    (later : touched.Covers between new)
    {shift : Int}
    (shifted : (new.length : Int) = between.length + shift) :
    (LineRange.merge (some range) touched shift).Covers old new := by
  have := earlier.ordered
  have := earlier.inside
  have := earlier.room
  have := later.ordered
  have := later.inside
  have := later.room
  -- Only bounds on the joined range matter from here on, not how it was joined.
  have behindEarlier :
      range.last + new.length ≤
        (LineRange.merge (some range) touched shift).last + between.length := by
    unfold LineRange.merge
    dsimp only
    split <;> omega
  have behindLater :
      touched.last ≤ (LineRange.merge (some range) touched shift).last := by
    unfold LineRange.merge
    dsimp only
    omega
  have lastInside :
      (LineRange.merge (some range) touched shift).last < new.length := by
    unfold LineRange.merge
    dsimp only
    split <;> omega
  have firstEq :
      (LineRange.merge (some range) touched shift).first =
        min range.first touched.first := by
    rfl
  generalize LineRange.merge (some range) touched shift = joined at *
  constructor
  · omega
  · exact lastInside
  · omega
  · rw [later.take_eq (by omega), earlier.take_eq (by omega)]
  · rw [later.drop_eq (by omega), earlier.drop_eq (by omega)]
    congr 1
    omega

end Covers

end LineRange

namespace Text

/-- Lists that end alike agree behind places that are as far from their ends. -/
theorem drop_eq_drop_of_suffix
    {left right common : List α}
    {leftIndex rightIndex : Nat}
    (leftEnds : common <:+ left)
    (rightEnds : common <:+ right)
    (sameRest : left.length + rightIndex = right.length + leftIndex)
    (restIsCommon : left.length ≤ leftIndex + common.length) :
    left.drop leftIndex = right.drop rightIndex := by
  obtain ⟨leftFront, rfl⟩ := leftEnds
  obtain ⟨rightFront, rfl⟩ := rightEnds
  simp only [List.length_append] at sameRest restIsCommon
  have leftGone : leftFront.drop leftIndex = [] :=
    List.drop_eq_nil_of_le (by omega)
  have rightGone : rightFront.drop rightIndex = [] :=
    List.drop_eq_nil_of_le (by omega)
  rw [List.drop_append, List.drop_append, leftGone, rightGone]
  congr 2
  omega

/-- Lists that begin alike agree up to places that both beginnings reach. -/
theorem take_eq_take_of_prefix
    {left right common : List α}
    {index : Nat}
    (leftBegins : common <+: left)
    (rightBegins : common <+: right)
    (isCommon : index ≤ common.length) :
    left.take index = right.take index := by
  obtain ⟨leftRest, rfl⟩ := leftBegins
  obtain ⟨rightRest, rfl⟩ := rightBegins
  rw [List.take_append_of_le_length isCommon, List.take_append_of_le_length isCommon]

/-- A break that is lost at a cut is one of the text behind it. -/
theorem lostBreaks_le_breakCount (before after : List Char) :
    lostBreaks before after ≤ breakCount after := by
  unfold lostBreaks
  split
  · rename_i joined
    cases after with
    | nil =>
        simp at joined
    | cons next later =>
        have isNewline : next = '\n' := by
          simp_all [joinsBreak]
        rw [breakCount_cons, isNewline]
        simp [endsLine, isLineBreak]
  · omega

/-- Behind a text without CR no break is lost. -/
theorem lostBreaks_of_no_return
    {before : List Char}
    (noReturn : '\r' ∉ before)
    (after : List Char) :
    lostBreaks before after = 0 := by
  unfold lostBreaks
  rw [if_neg]
  intro joined
  simp only [joinsBreak, Bool.and_eq_true, beq_iff_eq] at joined
  exact noReturn (List.mem_of_getLast? joined.1)

variable {before piece after : List Char} {line : Nat}

/--
A piece between two texts that adds as many lines as it has breaks: putting it in
touches the line of the cut and as many below it, and taking it out touches that line.
-/
theorem covers_of_cut
    (addsUp :
      breakCount (before ++ piece ++ after) =
        breakCount (before ++ after) + breakCount piece)
    (finished : line ≤ breakCount before)
    (exists_line : line ≤ breakCount (before ++ after))
    (reaches : breakCount (before ++ after) ≤ line + breakCount after) :
    (LineRange.mk line (line + breakCount piece)).Covers
        (ownLines (before ++ after)) (ownLines (before ++ piece ++ after)) ∧
      (LineRange.mk line line).Covers
        (ownLines (before ++ piece ++ after)) (ownLines (before ++ after)) := by
  have sameBefore :
      (ownLines (before ++ piece ++ after)).take line =
        (ownLines (before ++ after)).take line := by
    rw [List.append_assoc]
    apply take_eq_take_of_prefix
      (ownLines_dropLast_isPrefix before (piece ++ after))
      (ownLines_dropLast_isPrefix before after)
    simp only [List.length_dropLast, length_ownLines]
    omega
  have sameAfter :
      (ownLines (before ++ piece ++ after)).drop (line + breakCount piece + 1) =
        (ownLines (before ++ after)).drop (line + 1) := by
    apply drop_eq_drop_of_suffix
      ((ownLines_tail_suffix (before ++ piece) after).trans (List.tail_suffix _))
      ((ownLines_tail_suffix before after).trans (List.tail_suffix _))
    all_goals
      simp only [List.length_tail, length_ownLines]
      omega
  constructor
  · constructor
    · exact Nat.le_add_right _ _
    · simp only [length_ownLines]
      omega
    · simp only [length_ownLines]
      omega
    · exact sameBefore
    · rw [sameAfter]
      simp only [length_ownLines]
      congr 1
      omega
  · constructor
    · exact Nat.le_refl _
    · simp only [length_ownLines]
      omega
    · simp only [length_ownLines]
      omega
    · exact sameBefore.symm
    · rw [← sameAfter]
      simp only [length_ownLines]
      congr 1
      omega

end Text

namespace Edit

/-- The number of lines that an edit is noted to add. -/
def notedShift : Edit → Int
  | .insert _ piece => Text.breakCount piece
  | .delete _ piece => -Text.breakCount piece

/-- An edit adds as many lines to a text as it is noted with. -/
def ShiftsLines (edit : Edit) (text : List Char) : Prop :=
  (Text.lineCount (edit.applyTo text) : Int) = Text.lineCount text + edit.notedShift

/-- Lines are counted by their breaks. -/
theorem shiftsLines_iff
    {edit : Edit}
    {text : List Char} :
    edit.ShiftsLines text ↔
      (Text.breakCount (edit.applyTo text) : Int) =
        Text.breakCount text + edit.notedShift := by
  unfold ShiftsLines Text.lineCount
  rw [Text.length_lines, Text.length_lines]
  omega

/-- The breaks of two texts with a piece between them, by those that are lost at the seams. -/
theorem breakCount_between
    (before after : List Char)
    {piece : List Char}
    (somePiece : piece ≠ []) :
    Text.breakCount (before ++ piece ++ after) +
        (Text.lostBreaks before piece + Text.lostBreaks piece after) =
      Text.breakCount before + Text.breakCount piece + Text.breakCount after := by
  have outer := Text.breakCount_append (before ++ piece) after
  have inner := Text.breakCount_append before piece
  have sameSeam : Text.lostBreaks (before ++ piece) after = Text.lostBreaks piece after := by
    unfold Text.lostBreaks Text.joinsBreak
    rw [List.getLast?_append, List.getLast?_eq_some_getLast somePiece, Option.some_or]
  omega

/-- An insertion is noted with the lines it adds if it splits and joins as many CR LFs. -/
theorem shiftsLines_insert_iff
    {before after piece : List Char}
    (somePiece : piece ≠ []) :
    (Edit.insert before.length piece).ShiftsLines (before ++ after) ↔
      Text.lostBreaks before piece + Text.lostBreaks piece after =
        Text.lostBreaks before after := by
  have between := breakCount_between before after somePiece
  have together := Text.breakCount_append before after
  rw [shiftsLines_iff, applyTo_insert_append, notedShift]
  omega

/-- A deletion is noted with the lines it takes if it splits and joins as many CR LFs. -/
theorem shiftsLines_delete_iff
    {before after piece : List Char}
    (somePiece : piece ≠ []) :
    (Edit.delete before.length piece).ShiftsLines (before ++ piece ++ after) ↔
      Text.lostBreaks before piece + Text.lostBreaks piece after =
        Text.lostBreaks before after := by
  have between := breakCount_between before after somePiece
  have together := Text.breakCount_append before after
  rw [shiftsLines_iff, applyTo_delete_append, notedShift]
  omega

/-- An empty piece adds no lines. -/
theorem shiftsLines_of_nothing
    {edit : Edit}
    {text : List Char}
    (nothing : edit.piece = []) :
    edit.ShiftsLines text := by
  cases edit with
  | insert place piece | delete place piece =>
      cases nothing
      simp [shiftsLines_iff, applyTo, notedShift, Text.breakCount_nil]

/-- Without CR every edit is noted with the lines that it adds. -/
theorem shiftsLines_of_no_return
    {edit : Edit}
    {text : List Char}
    (fits : edit.Fits text)
    (noReturn : '\r' ∉ text)
    (bringsNone : '\r' ∉ edit.piece) :
    edit.ShiftsLines text := by
  by_cases nothing : edit.piece = []
  · exact shiftsLines_of_nothing nothing
  · cases edit with
    | insert place piece =>
        obtain ⟨before, after, rfl, rfl⟩ := fits_insert_iff.mp fits
        rw [List.mem_append, not_or] at noReturn
        have somePiece : piece ≠ [] := nothing
        have noneInside : '\r' ∉ piece := bringsNone
        rw [shiftsLines_insert_iff somePiece, Text.lostBreaks_of_no_return noReturn.1,
          Text.lostBreaks_of_no_return noReturn.1, Text.lostBreaks_of_no_return noneInside]
    | delete place piece =>
        obtain ⟨before, after, rfl, rfl⟩ := fits_delete_iff.mp fits
        simp only [List.mem_append, not_or] at noReturn
        have somePiece : piece ≠ [] := nothing
        rw [shiftsLines_delete_iff somePiece, Text.lostBreaks_of_no_return noReturn.1.1,
          Text.lostBreaks_of_no_return noReturn.1.1,
          Text.lostBreaks_of_no_return noReturn.1.2]

/-- A text without CR stays one when an edit brings none. -/
theorem no_return_applyTo
    {edit : Edit}
    {text : List Char}
    (noReturn : '\r' ∉ text)
    (bringsNone : '\r' ∉ edit.piece) :
    '\r' ∉ edit.applyTo text := by
  cases edit with
  | insert place piece =>
      simp only [applyTo, List.mem_append, not_or]
      exact
        ⟨⟨fun found => noReturn (List.mem_of_mem_take found), bringsNone⟩,
          fun found => noReturn (List.mem_of_mem_drop found)⟩
  | delete place piece =>
      simp only [applyTo, List.mem_append, not_or]
      exact
        ⟨fun found => noReturn (List.mem_of_mem_take found),
          fun found => noReturn (List.mem_of_mem_drop found)⟩

end Edit

namespace Buffer

/-- The line of a place where the text of a buffer is cut. -/
theorem lineOf_cut
    {buffer : Buffer}
    {before after : List Char}
    (cut : buffer.text = before ++ after) :
    buffer.lineOf before.length + Text.lostBreaks before after =
      Text.breakCount before := by
  have reached : buffer.clamp before.length = before.length := by
    rw [clamp_eq_min, length, cut, List.length_append]
    omega
  rw [lineOf, reached, cut]
  exact Text.lineOfIn_append before after

/-- A fitting edit that adds as many lines as it is noted with is covered by its note. -/
theorem touchedBy_covers
    {buffer : Buffer}
    {edit : Edit}
    (fits : edit.Fits buffer.text)
    (shifts : edit.ShiftsLines buffer.text) :
    (buffer.touchedBy edit).1.Covers buffer.lineTexts (buffer.applyEdit edit).lineTexts := by
  have counted := Edit.shiftsLines_iff.mp shifts
  cases edit with
  | insert place piece =>
      obtain ⟨before, after, cut, rfl⟩ := Edit.fits_insert_iff.mp fits
      have line := lineOf_cut cut
      have together := Text.breakCount_append before after
      rw [cut, Edit.applyTo_insert_append, Edit.notedShift] at counted
      have covers :
          (LineRange.mk (buffer.lineOf before.length)
              (buffer.lineOf before.length + Text.breakCount piece)).Covers
            (Text.ownLines (before ++ after)) (Text.ownLines (before ++ piece ++ after)) :=
        (Text.covers_of_cut (by omega) (by omega) (by omega) (by omega)).1
      rw [← cut, ← Edit.applyTo_insert_append, ← cut] at covers
      exact covers
  | delete place piece =>
      obtain ⟨before, after, cut, rfl⟩ := Edit.fits_delete_iff.mp fits
      have line := lineOf_cut (cut.trans (List.append_assoc before piece after))
      -- The line of a deletion is taken from the text that still has the piece.
      have whole := Text.breakCount_append before (piece ++ after)
      have rest := Text.breakCount_append piece after
      have together := Text.breakCount_append before after
      have lost := Text.lostBreaks_le_breakCount before after
      rw [cut, Edit.applyTo_delete_append, Edit.notedShift] at counted
      rw [List.append_assoc] at counted
      have covers :
          (LineRange.mk (buffer.lineOf before.length) (buffer.lineOf before.length)).Covers
            (Text.ownLines (before ++ piece ++ after)) (Text.ownLines (before ++ after)) :=
        (Text.covers_of_cut
          (by rw [List.append_assoc]; omega) (by omega) (by omega) (by omega)).2
      rw [← cut, ← Edit.applyTo_delete_append before piece after, ← cut] at covers
      exact covers

/-- What a buffer notes covers how its lines have changed. -/
def NotesChanges (old : List (List Char)) (buffer : Buffer) : Prop :=
  match buffer.dirty with
  | none => buffer.lineTexts = old
  | some noted => noted.Covers old buffer.lineTexts

/-- The number of lines that a buffer has. -/
theorem length_lineTexts (buffer : Buffer) :
    buffer.lineTexts.length = Text.lineCount buffer.text := by
  simp [lineTexts, Text.lineCount]

/-- Edits that add as many lines as they are noted with keep the notes covering. -/
theorem NotesChanges.applyEdit
    {old : List (List Char)}
    {buffer : Buffer}
    {edit : Edit}
    (notes : NotesChanges old buffer)
    (fits : edit.Fits buffer.text)
    (shifts : edit.ShiftsLines buffer.text) :
    NotesChanges old (buffer.applyEdit edit) := by
  have touched := touchedBy_covers fits shifts
  have shifted :
      ((buffer.applyEdit edit).lineTexts.length : Int) =
        buffer.lineTexts.length + (buffer.touchedBy edit).2 := by
    rw [length_lineTexts, length_lineTexts, applyEdit_text, shifts]
    cases edit <;> rfl
  unfold NotesChanges at notes
  unfold NotesChanges
  show (LineRange.merge buffer.dirty (buffer.touchedBy edit).1
    (buffer.touchedBy edit).2).Covers old (buffer.applyEdit edit).lineTexts
  cases noted : buffer.dirty with
  | none =>
      rw [noted] at notes
      rw [← notes]
      exact touched
  | some earlier =>
      rw [noted] at notes
      exact notes.merge touched shifted

/--
The second buffer comes from the first one by edits that are allowed in the texts that
they change, whatever becomes of the history.
-/
inductive ChangesBy
    (allowed : Edit → List Char → Prop)
    (start : Buffer) : Buffer → Prop where
  | nothing :
      ChangesBy allowed start start
  | edit
      {between : Buffer}
      (earlier : ChangesBy allowed start between)
      (edit : Edit)
      (isAllowed : allowed edit between.text) :
      ChangesBy allowed start (between.applyEdit edit)
  | history
      {between : Buffer}
      (earlier : ChangesBy allowed start between)
      (history : History) :
      ChangesBy allowed start { between with history }

namespace ChangesBy

variable {allowed : Edit → List Char → Prop} {before between after : Buffer}

/-- Allowed edits after allowed edits are allowed edits. -/
theorem trans
    (earlier : ChangesBy allowed before between)
    (later : ChangesBy allowed between after) :
    ChangesBy allowed before after := by
  induction later with
  | nothing =>
      exact earlier
  | edit _ edit isAllowed inductionHypothesis =>
      exact .edit inductionHypothesis edit isAllowed
  | history _ history inductionHypothesis =>
      exact .history inductionHypothesis history

/-- Which edits have changed a buffer does not depend on its history. -/
theorem of_same
    (changes : ChangesBy allowed before between)
    (sameText : after.text = between.text)
    (sameVersion : after.version = between.version)
    (sameDirty : after.dirty = between.dirty) :
    ChangesBy allowed before after := by
  obtain ⟨text, version, history, dirty⟩ := after
  cases sameText
  cases sameVersion
  cases sameDirty
  exact .history changes history

/-- As long as no touched lines are noted the text has not changed. -/
theorem text_of_clean
    (changes : ChangesBy allowed before after)
    (clean : after.dirty = none) :
    after.text = before.text := by
  induction changes with
  | nothing =>
      rfl
  | edit _ edit _ _ =>
      cases clean
  | history _ history inductionHypothesis =>
      exact inductionHypothesis clean

end ChangesBy

/-- An edit that fits and adds as many lines as it is noted with. -/
def IsNotedRightly (edit : Edit) (text : List Char) : Prop :=
  edit.Fits text ∧ edit.ShiftsLines text

/-- Rightly noted edits keep the notes covering. -/
theorem ChangesBy.notesChanges
    {old : List (List Char)}
    {before after : Buffer}
    (changes : ChangesBy IsNotedRightly before after)
    (notes : NotesChanges old before) :
    NotesChanges old after := by
  induction changes with
  | nothing =>
      exact notes
  | edit _ edit isAllowed inductionHypothesis =>
      exact inductionHypothesis.applyEdit isAllowed.1 isAllowed.2
  | history _ history inductionHypothesis =>
      exact inductionHypothesis

/-- An edit that fits and brings no CR. -/
def BringsNoReturn (edit : Edit) (text : List Char) : Prop :=
  edit.Fits text ∧ '\r' ∉ edit.piece

/-- In a text without CR, edits that bring none are noted rightly. -/
theorem ChangesBy.noted_of_no_return
    {before after : Buffer}
    (changes : ChangesBy BringsNoReturn before after)
    (noReturn : '\r' ∉ before.text) :
    ChangesBy IsNotedRightly before after ∧ '\r' ∉ after.text := by
  induction changes with
  | nothing =>
      exact ⟨.nothing, noReturn⟩
  | edit _ edit isAllowed inductionHypothesis =>
      obtain ⟨noted, noReturnBetween⟩ := inductionHypothesis
      obtain ⟨fits, bringsNone⟩ := isAllowed
      have shifts := Edit.shiftsLines_of_no_return fits noReturnBetween bringsNone
      exact
        ⟨.edit noted edit ⟨fits, shifts⟩, Edit.no_return_applyTo noReturnBetween bringsNone⟩
  | history _ history inductionHypothesis =>
      exact ⟨.history inductionHypothesis.1 history, inductionHypothesis.2⟩

end Buffer

end ChordEditor
