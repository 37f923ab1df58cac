import ChordEditor.Commands.Run
import ChordEditor.Proofs.Buffer.Places
import ChordEditor.Proofs.Commands.Working

namespace ChordEditor.Commands

/-!
# Actions are tidy, and most are sure

Every action but undo and redo is tidy: it works by new edits alone, and only its first
edit can be refused.  Where there is a second edit, its range follows from the range
that the first one was accepted for, or from the lines of the text.

The first edit is not refused either if the cursor is in the text, for its range comes
from lines, motions and words.  Only deleting to the end of the line asks more: the
cursor must not lie behind that.
-/

open CommandM

variable {fixedMode : Prop} {editor : Editor}

section Editing

theorem deleteChar_sure (context : CommandContext) :
    (deleteChar context).Sure fixedMode editor := by
  unfold deleteChar
  apply Sure.get_bind
  dsimp only
  split
  · rename_i someChar
    refine (Sure.delete ⟨Nat.le_of_lt someChar, ?_⟩).followed ?_
    · exact Nat.le_trans (Nat.min_le_right _ _) (editor.buffer.lineEnd_le _)
    · intro removed after
      exact (Sure.store removed false).followed fun _ _ => .setCursor _
  · exact .setCursor _

theorem substituteChar_sure (context : CommandContext) :
    (substituteChar context).Sure False editor :=
  (deleteChar_sure context).followed fun _ _ => .setMode _

theorem replaceChar_sure (context : CommandContext) :
    (replaceChar context).Sure fixedMode editor := by
  unfold replaceChar
  apply Sure.get_bind
  split
  · exact .pure ()
  · dsimp only
    split
    · exact .pure ()
    · rename_i onLine
      refine (Sure.replace ⟨Nat.le_add_right _ _, ?_⟩ _).followed fun _ _ => .setCursor _
      exact Nat.le_trans (Nat.le_of_not_lt onLine) (editor.buffer.lineEnd_le _)

/-- Joining the next line to one that is not the last is sure. -/
theorem joinNext_sure
    {line : Nat}
    (isBefore : line < editor.buffer.lastLine) :
    (joinNext line).Sure fixedMode editor := by
  have trimmed := Text.length_trimEnd_le (editor.buffer.lineText line)
  have ends := Buffer.lineText_le_lineStart_succ isBefore
  have starts : editor.buffer.lineStart (line + 1) ≤ editor.buffer.firstNonBlank (line + 1) :=
    Nat.le_add_right _ _
  apply Sure.get_bind
  refine (Sure.replace ⟨?_, ?_⟩ _).followed fun _ _ => .pure _
  · dsimp only
    omega
  · exact editor.buffer.firstNonBlank_le (line + 1)

theorem joinFollowing_sure (line count seam : Nat) :
    (joinFollowing line count seam).Sure fixedMode editor := by
  induction count generalizing editor seam with
  | zero =>
      exact .pure seam
  | succ count inductionHypothesis =>
      unfold joinFollowing
      apply Sure.get_bind
      split
      · exact .pure seam
      · rename_i isBefore
        apply (joinNext_sure (Nat.lt_of_not_le isBefore)).followed
        intro seam after
        exact inductionHypothesis seam

theorem joinLines_sure (context : CommandContext) :
    (joinLines context).Sure fixedMode editor := by
  unfold joinLines
  apply Sure.get_bind
  exact (joinFollowing_sure _ _ _).followed fun _ _ => .setCursor _

theorem pasteLines_sure
    (before : Bool)
    (text : List Char) :
    (pasteLines before text).Sure fixedMode editor := by
  unfold pasteLines
  apply Sure.get_bind
  dsimp only
  split
  · exact (Sure.insert (editor.buffer.lineStart_le _) _).followed fun _ _ => .pure _
  · split
    · exact (Sure.insert (editor.buffer.lineStart_le _) _).followed fun _ _ => .pure _
    · exact (Sure.insert (Nat.le_refl _) _).followed fun _ _ => .pure _

/-- Pasting characters needs the cursor in the text, pasting lines does not. -/
theorem paste_sureIf
    (before : Bool)
    (context : CommandContext) :
    (paste before context).SureIf editor.CursorInText fixedMode editor := by
  unfold paste
  apply SureIf.get_bind
  split
  · exact .of_sure (.pure ())
  · dsimp only
    split
    · exact .of_sure ((pasteLines_sure before _).followed fun _ _ =>
        .change ⟨rfl, rfl, rfl, rfl⟩ rfl fun _ => rfl)
    · exact (SureIf.insert Editor.CursorInText.position _).followed fun _ _ => .setCursor _

theorem insertPlace_sure (entry : InsertEntry) :
    (insertPlace entry).Sure fixedMode editor := by
  unfold insertPlace
  apply Sure.get_bind
  cases entry with
  | beforeCursor | afterCursor | lineStart | lineEnd => exact .pure _
  | lineBelow =>
      exact (Sure.insert (editor.buffer.lineEnd_le _) _).followed fun _ _ => .pure _
  | lineAbove =>
      exact (Sure.insert (editor.buffer.lineStart_le _) _).followed fun _ _ => .pure _

theorem enterInsert_sure (entry : InsertEntry) :
    (enterInsert entry).Sure False editor := by
  apply (insertPlace_sure entry).followed
  intro place after
  exact (Sure.setCursor place).followed fun _ _ => .setMode _

theorem toggleVisual_sure (mode : Mode) : (toggleVisual mode).Sure False editor := by
  have parts := editor.setMode_parts (if editor.mode = mode then .normal else mode)
  exact .change ⟨parts.2.1, parts.2.2.1, parts.2.2.2.1, parts.2.2.2.2⟩ parts.1 False.elim

end Editing

section Operators

theorem deleteSpan_sureIf (span : Span) :
    (deleteSpan span).SureIf (span.stop ≤ editor.buffer.length) fixedMode editor := by
  unfold deleteSpan
  dsimp only
  split
  · exact .of_sure (.setCursor _)
  · rename_i someChar
    have ordered : span.start ≤ span.stop := by
      simp [Span.isEmpty] at someChar
      omega
    apply (SureIf.delete fun inText => ⟨ordered, inText⟩).followed
    intro text after
    exact (Sure.store text false).followed fun _ _ => .setCursor _

theorem deleteLineBlock_sure
    {lines : LineRange}
    (ordered : lines.first ≤ lines.last) :
    (deleteLineBlock lines).Sure fixedMode editor := by
  unfold deleteLineBlock
  apply Sure.get_bind
  apply (Sure.delete (editor.buffer.lineSpan_isRange ordered)).followed
  intro _ after
  exact (Sure.store _ true).followed fun _ _ => .change ⟨rfl, rfl, rfl, rfl⟩ rfl fun _ => rfl

theorem changeLineBlock_sure
    {lines : LineRange}
    (ordered : lines.first ≤ lines.last) :
    (changeLineBlock lines).Sure False editor := by
  unfold changeLineBlock
  apply Sure.get_bind
  refine (Sure.delete ⟨?_, ?_⟩).followed ?_
  · exact editor.buffer.firstNonBlank_le_lineEnd ordered
  · exact editor.buffer.lineEnd_le _
  intro _ after
  apply (Sure.store _ true).followed
  intro _ after
  exact (Sure.setCursor _).followed fun _ _ => .setMode _

theorem yankLineBlock_sure (lines : LineRange) :
    (yankLineBlock lines).Sure fixedMode editor := by
  unfold yankLineBlock
  apply Sure.get_bind
  exact .store _ true

/-- The span of a motion that is deleted lies within the text. -/
theorem deleteSpan_motion_sure
    (motion : Motion)
    (context : CommandContext) :
    (deleteSpan (motionSpan editor motion context)).Sure fixedMode editor :=
  (deleteSpan_sureIf _).sure (motion.operatorSpan_isRange _ _ _).inText

theorem deleteTowards_sure
    (motion : Motion)
    (context : CommandContext) :
    (deleteTowards motion context).Sure fixedMode editor := by
  unfold deleteTowards
  apply Sure.get_bind
  split
  · exact deleteLineBlock_sure (motion.linesCovered_ordered _ _ _)
  · exact deleteSpan_motion_sure motion context

theorem changeTowards_sure
    (motion : Motion)
    (context : CommandContext) :
    (changeTowards motion context).Sure False editor := by
  unfold changeTowards
  apply Sure.get_bind
  split
  · exact changeLineBlock_sure (motion.linesCovered_ordered _ _ _)
  · exact (deleteSpan_motion_sure motion context).followed fun _ _ => .setMode _

theorem yankTowards_sure
    (motion : Motion)
    (context : CommandContext) :
    (yankTowards motion context).Sure fixedMode editor := by
  unfold yankTowards
  apply Sure.get_bind
  split
  · exact yankLineBlock_sure _
  · exact (Sure.store _ false).followed fun _ _ => .setCursor _

/-- The lines that a count takes are in their order. -/
theorem countedLines_ordered
    (editor : Editor)
    (context : CommandContext) :
    (countedLines editor context).first ≤ (countedLines editor context).last := by
  have isLine := editor.buffer.lineOf_le_lastLine editor.position
  show editor.currentLine ≤ min _ _
  unfold Editor.currentLine
  omega

theorem deleteLines_sure (context : CommandContext) :
    (deleteLines context).Sure fixedMode editor := by
  unfold deleteLines
  apply Sure.get_bind
  exact deleteLineBlock_sure (countedLines_ordered editor context)

theorem changeLines_sure (context : CommandContext) :
    (changeLines context).Sure False editor := by
  unfold changeLines
  apply Sure.get_bind
  exact changeLineBlock_sure (countedLines_ordered editor context)

theorem yankLines_sure (context : CommandContext) :
    (yankLines context).Sure fixedMode editor := by
  unfold yankLines
  apply Sure.get_bind
  exact yankLineBlock_sure _

/-- What is left of a line is deleted up to its end without being refused. -/
theorem deleteBlankEnd_sure (place line : Nat) :
    (do
      let buffer := (← get).buffer
      let kept := buffer.lineStart line + (Text.trimEnd (buffer.lineText line)).length
      let _ ← CommandM.delete ⟨kept, buffer.lineEnd line⟩
      CommandM.setCursor (min place kept) : CommandM Unit).Sure fixedMode editor := by
  apply Sure.get_bind
  refine (Sure.delete ⟨?_, ?_⟩).followed fun _ _ => .setCursor _
  · exact editor.buffer.lineStart_add_le_lineEnd line (Text.length_trimEnd_le _)
  · exact editor.buffer.lineEnd_le line

/-- Deleting to the end of the line needs the cursor not to lie behind that. -/
theorem deleteToLineEnd_sureIf :
    deleteToLineEnd.SureIf
      (editor.position ≤ editor.buffer.lineEnd editor.currentLine) fixedMode editor := by
  unfold deleteToLineEnd
  apply SureIf.get_bind
  dsimp only
  refine (SureIf.delete ?_).followed ?_
  · exact fun onLine => ⟨onLine, editor.buffer.lineEnd_le _⟩
  intro removed after
  split
  · exact deleteBlankEnd_sure _ _
  · exact (Sure.store removed false).followed fun _ _ => deleteBlankEnd_sure _ _

/-- A selection of whole lines has them in their order. -/
theorem selection_ordered
    {first last : Nat}
    (selected : editor.selection = .lines first last) :
    first ≤ last := by
  unfold Editor.selection at selected
  dsimp only at selected
  split at selected
  · cases selected
    apply editor.buffer.lineOf_mono
    unfold Cursor.start Cursor.stop
    omega
  · split at selected <;> cases selected

/-- A selection of characters ends within the text if the cursor lies there. -/
theorem selection_stop_le
    {span : Span}
    (inText : editor.CursorInText)
    (selected : editor.selection = .chars span) :
    span.stop ≤ editor.buffer.length := by
  unfold Editor.selection at selected
  dsimp only at selected
  split at selected
  · cases selected
  · split at selected
    · cases selected
      exact Nat.max_le.mpr ⟨inText.anchor, inText.position⟩
    · cases selected
      exact Nat.le_trans (Nat.min_le_right _ _) (editor.buffer.lineEnd_le _)

theorem deleteSelection_sureIf :
    deleteSelection.SureIf editor.CursorInText False editor := by
  unfold deleteSelection
  apply SureIf.get_bind
  dsimp only
  split
  · rename_i first last selected
    exact .of_sure ((deleteLineBlock_sure (selection_ordered selected)).followed
      fun _ _ => .setMode _)
  · rename_i span selected
    exact ((deleteSpan_sureIf span).under fun inText =>
      selection_stop_le inText selected).followed fun _ _ => .setMode _

theorem changeSelection_sureIf :
    changeSelection.SureIf editor.CursorInText False editor := by
  unfold changeSelection
  apply SureIf.get_bind
  split
  · rename_i first last selected
    exact .of_sure (changeLineBlock_sure (selection_ordered selected))
  · rename_i span selected
    exact ((deleteSpan_sureIf span).under fun inText =>
      selection_stop_le inText selected).followed fun _ _ => .setMode _

theorem yankSelection_sure : yankSelection.Sure False editor := by
  unfold yankSelection
  apply Sure.get_bind
  dsimp only
  split
  · apply (yankLineBlock_sure _).followed
    intro _ after
    exact (Sure.setCursor _).followed fun _ _ => .setMode _
  · apply (Sure.store _ false).followed
    intro _ after
    exact (Sure.setCursor _).followed fun _ _ => .setMode _

end Operators

section Surroundings

/-- A closing delimiter that is found is among what is ahead. -/
theorem unmatchedClosing?_lt
    {opening closing : Char}
    {depth offset : Nat}
    {ahead : List Char}
    (found : unmatchedClosing? opening closing depth ahead = some offset) :
    offset < ahead.length := by
  induction ahead generalizing depth offset with
  | nil =>
      contradiction
  | cons c rest inductionHypothesis =>
      rw [List.length_cons]
      have further
          {depth : Nat}
          (behind :
            (unmatchedClosing? opening closing depth rest).map (· + 1) = some offset) :
          offset < rest.length + 1 := by
        obtain ⟨earlier, isFound, rfl⟩ := Option.map_eq_some_iff.mp behind
        exact Nat.succ_lt_succ (inductionHypothesis isFound)
      unfold unmatchedClosing? at found
      split at found
      · exact further found
      · split at found
        · split at found
          · cases found
            exact Nat.zero_lt_succ _
          · exact further found
        · exact further found

/-- Both delimiters of a pair are apart, and on the line. -/
theorem findEnclosing?_bounds
    {line : List Char}
    {column left right : Nat}
    {opening closing : Char}
    (found : findEnclosing? line column opening closing = some (left, right)) :
    left < right ∧ right < line.length := by
  unfold findEnclosing? at found
  split at found
  · contradiction
  · dsimp only at found
    split at found
    · obtain ⟨back, _, rest⟩ := Option.bind_eq_some_iff.mp found
      obtain ⟨offset, isMark, same⟩ := Option.bind_eq_some_iff.mp rest
      cases same
      have ahead := (List.findIdx?_eq_some_iff_getElem.mp isMark).1
      rw [List.length_drop] at ahead
      omega
    · unfold enclosingBrackets? at found
      dsimp only at found
      split at found
      all_goals
        obtain ⟨column, _, rest⟩ := Option.bind_eq_some_iff.mp found
        obtain ⟨offset, isClosing, same⟩ := Option.bind_eq_some_iff.mp rest
        cases same
        have ahead := unmatchedClosing?_lt isClosing
        rw [List.length_drop] at ahead
        omega

/-- Both delimiters of a pair around the cursor are apart, and in the text. -/
theorem enclosingPair_bounds
    {delimiters : Char × Char}
    {left right : Nat}
    (found : enclosingPair? editor delimiters = some (left, right)) :
    left < right ∧ right < editor.buffer.length := by
  have within := editor.buffer.lineStart_add_lineText_le editor.currentLine
  unfold enclosingPair? at found
  rw [Option.map_eq_some_iff] at found
  obtain ⟨⟨leftColumn, rightColumn⟩, columns, places⟩ := found
  have bounds := findEnclosing?_bounds columns
  simp only [Prod.mk.injEq] at places
  omega

theorem charSpan_isRange
    {buffer : Buffer}
    {place : Nat}
    (inText : place < buffer.length) :
    (charSpan place).IsRangeOf buffer :=
  ⟨Nat.le_succ place, inText⟩

theorem surroundWord_sure (context : CommandContext) :
    (surroundWord context).Sure fixedMode editor := by
  unfold surroundWord
  apply Sure.get_bind
  split
  · rename_i c span _ found
    have isRange := Buffer.wordSpan_isRange found
    apply (Sure.insert isRange.inText _).bind
    intro _ after ended
    have longer := Buffer.length_of_insert (insert_ok ended)
    have startInText : span.start ≤ after.buffer.length := by
      have ordered := isRange.ordered
      have inText := isRange.inText
      omega
    exact (Sure.insert startInText _).followed fun _ _ => .setCursor _
  · exact .pure ()

theorem deleteSurround_sure (context : CommandContext) :
    (deleteSurround context).Sure fixedMode editor := by
  unfold deleteSurround
  apply Sure.get_bind
  split
  · rename_i left right found
    obtain ⟨c, _, pair⟩ := Option.bind_eq_some_iff.mp found
    obtain ⟨apart, inText⟩ := enclosingPair_bounds pair
    apply (Sure.delete (charSpan_isRange inText)).bind
    intro removed after ended
    -- The right delimiter goes first, so the place of the left one is still right.
    have shorter := Buffer.length_of_delete (delete_ok ended)
    simp only [charSpan] at shorter
    exact (Sure.delete (charSpan_isRange (by omega))).followed fun _ _ => .setCursor _
  · exact .pure ()

theorem changeSurround_sure (context : CommandContext) :
    (changeSurround context).Sure fixedMode editor := by
  unfold changeSurround
  apply Sure.get_bind
  split
  · split
    · rename_i left right pair
      obtain ⟨apart, inText⟩ := enclosingPair_bounds pair
      apply (Sure.replace (charSpan_isRange inText) _).bind
      intro _ after ended
      obtain ⟨removed, replaced⟩ := replace_ok ended
      have asLong := Buffer.length_of_replace replaced
      simp only [charSpan, List.length_singleton] at asLong
      exact (Sure.replace (charSpan_isRange (by omega)) _).followed fun _ _ => .setCursor _
    · exact .pure ()
  · exact .pure ()

end Surroundings

section Lines

theorem forLines_sure
    {lines : LineRange}
    {body : Nat → CommandM Unit}
    (bodySure : ∀ line after, (body line).Sure fixedMode after) :
    (forLines lines body).Sure fixedMode editor :=
  .forM bodySure

theorem indentLine_sure (line units : Nat) :
    (indentLine line units).Sure fixedMode editor := by
  unfold indentLine
  apply Sure.get_bind
  split
  · exact .pure ()
  · exact .insert (editor.buffer.lineStart_le line) _

/-- What is taken from an indentation is no longer than the indentation. -/
theorem charsWithin_le
    (tabWidth room : Nat)
    (indent : List Char) :
    charsWithin tabWidth room indent ≤ indent.length := by
  induction indent generalizing room with
  | nil =>
      exact Nat.zero_le _
  | cons c rest inductionHypothesis =>
      unfold charsWithin
      dsimp only
      generalize (if c = '\t' then tabWidth else 1) = width
      split
      · exact Nat.succ_le_succ (inductionHypothesis _)
      · exact Nat.zero_le _

theorem outdentLine_sure (line units : Nat) :
    (outdentLine line units).Sure fixedMode editor := by
  apply Sure.get_bind
  have taken :=
    charsWithin_le editor.settings.tabWidth (editor.settings.tabWidth * units)
      (Text.leadingBlank (editor.buffer.lineText line))
  have indent := Text.length_leadingBlank_le (editor.buffer.lineText line)
  have within := editor.buffer.lineStart_add_lineText_le line
  refine (Sure.delete ⟨?_, ?_⟩).followed fun _ _ => .pure ()
  · exact Nat.le_add_right _ _
  · dsimp only
    omega

theorem shift_sure
    (right : Bool)
    (context : CommandContext) :
    (shift right context).Sure False editor := by
  apply Sure.get_bind
  refine (forLines_sure ?_).followed fun _ _ =>
    (Sure.setMode _).followed fun _ _ => .change ⟨rfl, rfl, rfl, rfl⟩ rfl fun _ => rfl
  intro line after
  split
  · exact indentLine_sure _ _
  · exact outdentLine_sure _ _

theorem commentOneLine_sure
    (change : CommentChange)
    (line : Nat) :
    (commentOneLine change line).Sure fixedMode editor := by
  unfold commentOneLine
  apply Sure.get_bind
  dsimp only
  split
  · refine .replace ⟨?_, ?_⟩ _
    · exact editor.buffer.lineStart_add_le_lineEnd line (Nat.zero_le _)
    · exact editor.buffer.lineEnd_le line
  · exact .pure ()

theorem commentLines_sure
    (change : CommentChange)
    (context : CommandContext) :
    (commentLines change context).Sure False editor := by
  apply Sure.get_bind
  apply (forLines_sure fun line _ => commentOneLine_sure change line).followed
  intro _ after
  exact (Sure.setMode _).followed fun _ _ => .change ⟨rfl, rfl, rfl, rfl⟩ rfl fun _ => rfl

theorem insertAndGoOn_sureIf
    (place : Nat)
    (text : List Char) :
    (insertAndGoOn place text).SureIf (place ≤ editor.buffer.length) False editor := by
  apply (SureIf.insert id text).followed
  intro _ after
  exact (Sure.setCursor _).followed fun _ _ => .setMode _

/-- What a change of case acts on ends within the text, and is a range or holds nothing. -/
theorem caseSpan_isRange
    {span : Span}
    (inText : editor.CursorInText)
    (found : caseSpan? editor = some span)
    (someText : editor.buffer.spanText span ≠ []) :
    span.IsRangeOf editor.buffer := by
  have ordered : span.start ≤ span.stop := by
    apply Nat.le_of_lt
    apply Nat.lt_of_not_le
    intro reversed
    apply someText
    apply List.drop_eq_nil_of_le
    exact Nat.le_trans (List.length_take_le _ _) reversed
  refine ⟨ordered, ?_⟩
  unfold caseSpan? at found
  split at found
  · split at found
    · rename_i selected
      cases found
      exact selection_stop_le inText selected
    · cases found
      exact editor.buffer.lineEnd_le _
  · exact (Buffer.wordSpan_isRange found).inText

theorem changeCase_sureIf (upper : Bool) :
    (changeCase upper).SureIf editor.CursorInText False editor := by
  unfold changeCase
  apply SureIf.get_bind
  split
  · exact .of_sure (.pure ())
  · rename_i span found
    have emptyStays :
        editor.buffer.spanText span = [] →
          (if upper = true then Text.upperText (editor.buffer.spanText span)
            else Text.lowerText (editor.buffer.spanText span)) =
            editor.buffer.spanText span := by
      intro noText
      rw [noText]
      cases upper <;> rfl
    dsimp only
    generalize
      (if upper = true then Text.upperText (editor.buffer.spanText span)
        else Text.lowerText (editor.buffer.spanText span)) = mapped at emptyStays
    split
    · rename_i changes
      have isRange := fun inText => caseSpan_isRange inText found fun noText =>
        changes (emptyStays noText)
      exact (SureIf.replace isRange _).followed fun _ _ =>
        (Sure.setMode _).followed fun _ _ => .setCursor _
    · exact .of_sure ((Sure.setMode _).followed fun _ _ => .setCursor _)

end Lines

section Looking

theorem gotoDefinition_sure : gotoDefinition.Sure fixedMode editor := by
  unfold gotoDefinition
  apply Sure.get_bind
  split
  · exact .tell _
  · dsimp only
    split
    · exact .change ⟨rfl, rfl, rfl, rfl⟩ rfl fun _ => rfl
    · exact .tell _
    · exact .tell _
    · exact (Sure.tell _).followed fun _ _ => .request _
    · exact .tell _

theorem followJump_sure (found : Option (Nat × JumpList)) :
    (followJump found).Sure fixedMode editor := by
  cases found with
  | none =>
      exact .pure ()
  | some arrival =>
      exact .change ⟨rfl, rfl, rfl, rfl⟩ rfl fun _ => rfl

theorem changeSearch_sure (step : SearchState → Buffer → SearchState) :
    (changeSearch step).Sure fixedMode editor :=
  .change ⟨rfl, rfl, rfl, rfl⟩ rfl fun _ => rfl

theorem tellMatches_sure (term : List Char) : (tellMatches term).Sure fixedMode editor :=
  .change ⟨rfl, rfl, rfl, rfl⟩ rfl fun _ => rfl

theorem searchWord_sure : searchWord.Sure fixedMode editor := by
  unfold searchWord
  apply Sure.get_bind
  split
  · exact .tell _
  · exact (changeSearch_sure _).followed fun _ _ => tellMatches_sure _

theorem searchNext_sure
    (forward : Bool)
    (context : CommandContext) :
    (searchNext forward context).Sure fixedMode editor := by
  apply (changeSearch_sure _).followed
  intro _ after
  apply Sure.get_bind
  dsimp only
  split
  · exact .setCursor _
  · exact .tell _
  · exact .tell _

end Looking

/-- Every action but undo and redo is tidy; with the cursor on its line it is sure. -/
theorem runAction_sureIf
    {action : Action}
    (notUndo : action ≠ .undo)
    (notRedo : action ≠ .redo)
    (context : CommandContext) :
    (runAction action context).SureIf
      (editor.CursorInText ∧
        (action = .deleteToLineEnd →
          editor.position ≤ editor.buffer.lineEnd editor.currentLine))
      False editor := by
  cases action with
  | undo => exact absurd rfl notUndo
  | redo => exact absurd rfl notRedo
  | delete motion => exact .of_sure (deleteTowards_sure motion context)
  | change motion => exact .of_sure (changeTowards_sure motion context)
  | yank motion => exact .of_sure (yankTowards_sure motion context)
  | deleteLines => exact .of_sure (deleteLines_sure context)
  | changeLines => exact .of_sure (changeLines_sure context)
  | yankLines => exact .of_sure (yankLines_sure context)
  | deleteToLineEnd => exact deleteToLineEnd_sureIf.under fun met => met.2 rfl
  | deleteChar => exact .of_sure (deleteChar_sure context)
  | substituteChar => exact .of_sure (substituteChar_sure context)
  | replaceChar => exact .of_sure (replaceChar_sure context)
  | joinLines => exact .of_sure (joinLines_sure context)
  | paste before => exact (paste_sureIf before context).under And.left
  | insert entry => exact .of_sure (enterInsert_sure entry)
  | visual mode => exact .of_sure (toggleVisual_sure mode)
  | deleteSelection => exact deleteSelection_sureIf.under And.left
  | changeSelection => exact changeSelection_sureIf.under And.left
  | yankSelection => exact .of_sure yankSelection_sure
  | indent => exact .of_sure (shift_sure true context)
  | outdent => exact .of_sure (shift_sure false context)
  | changeCase upper => exact (changeCase_sureIf upper).under And.left
  | comment change => exact .of_sure (commentLines_sure change context)
  | commentLineEnd =>
      exact .get_bind ((insertAndGoOn_sureIf _ _).under fun _ => editor.buffer.lineEnd_le _)
  | commentAtCursor =>
      exact .get_bind ((insertAndGoOn_sureIf _ _).under fun met => met.1.position)
  | surround => exact .of_sure (surroundWord_sure context)
  | deleteSurround => exact .of_sure (deleteSurround_sure context)
  | changeSurround => exact .of_sure (changeSurround_sure context)
  | searchWord => exact .of_sure searchWord_sure
  | searchNext => exact .of_sure (searchNext_sure true context)
  | searchPrevious => exact .of_sure (searchNext_sure false context)
  | clearSearch => exact .of_sure (changeSearch_sure fun search _ => search.clear)
  | gotoDefinition => exact .of_sure gotoDefinition_sure
  | jumpBack | jumpForward => exact .of_sure (.get_bind (followJump_sure _))
  | move | openPrompt | scrollDown | scrollUp | centerView =>
      exact .of_sure (.change ⟨rfl, rfl, rfl, rfl⟩ rfl fun _ => rfl)
  | nextPage | previousPage | zoomIn | zoomOut => exact .of_sure (.request _)

/-- Every action but undo and redo is tidy. -/
theorem runAction_tidy
    {action : Action}
    (notUndo : action ≠ .undo)
    (notRedo : action ≠ .redo)
    (context : CommandContext) :
    (runAction action context).Tidy False editor :=
  (runAction_sureIf notUndo notRedo context).toTidy

end ChordEditor.Commands
