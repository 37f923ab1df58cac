import ChordEditor.Proofs.Session.CursorInText
import ChordEditor.Proofs.Session.Steps
import ChordEditor.Proofs.Text.Stripping

namespace ChordEditor.Editor

/-!
# Where the cursor is after leaving a mode

Leaving a mode for normal mode deletes the blanks at the end of the cursor's line, and
leaves the cursor at its place in the text unless that has become too short.  So the
cursor stays on its line if it was not behind what is kept of the line, or the line is
the last one; else it comes to lie on what followed the blanks.
-/

/-- The own text of the cursor's line. -/
def cursorText (editor : Editor) : List Char :=
  editor.buffer.lineText editor.currentLine

/-- How far the cursor lies behind the start of its line. -/
def cursorColumn (editor : Editor) : Nat :=
  editor.buffer.columnOf editor.position

/-- How much of the cursor's line is kept when the blanks at its end are deleted. -/
def keptColumns (editor : Editor) : Nat :=
  (Text.trimEnd editor.cursorText).length

/-- The blanks at the end of the cursor's line. -/
def trailingBlanks (editor : Editor) : List Char :=
  editor.cursorText.drop editor.keptColumns

/-- The text before the blanks at the end of the cursor's line. -/
def beforeBlanks (editor : Editor) : List Char :=
  editor.buffer.text.take (editor.buffer.lineStart editor.currentLine + editor.keptColumns)

/-- The text behind the blanks at the end of the cursor's line. -/
def behindBlanks (editor : Editor) : List Char :=
  editor.buffer.text.drop
    (editor.buffer.lineStart editor.currentLine + editor.cursorText.length)

/-- The cursor stays on its line, and within what is kept of it; the other lines stay. -/
structure KeepsCursorLine (before after : Editor) : Prop where
  line : after.currentLine = before.currentLine
  column : after.cursorColumn = min before.cursorColumn before.keptColumns
  others :
    ∀ other, other ≠ before.currentLine →
      (Text.lines after.buffer.text)[other]? = (Text.lines before.buffer.text)[other]?

/-- Deleting the blanks at the end of the cursor's line joins it to no other line. -/
structure BlanksJoinNoLines (editor : Editor) : Prop where
  /-- The blanks hold no break, such as VT or FF. -/
  noBreak : Text.breakCount editor.trailingBlanks = 0
  /-- No CR comes to stand before a LF. -/
  apart : Text.joinsBreak editor.beforeBlanks editor.behindBlanks = false

variable {editor : Editor}

/-- With the cursor in the text, that is cut up around the blanks at the end of its line. -/
theorem CursorInText.endsBlank (inText : editor.CursorInText) :
    Text.EndsBlank editor.buffer.text editor.currentLine editor.beforeBlanks
      editor.trailingBlanks editor.behindBlanks := by
  obtain ⟨ended, line, later, onLine, located, start, own⟩ :=
    editor.buffer.exists_onLine inText.position
  have endsBlank := onLine.endsBlank
  rw [← located, ← start, ← own] at endsBlank
  exact endsBlank

theorem lineStart_currentLine (editor : Editor) :
    editor.buffer.lineStart editor.currentLine =
      Text.lineStartIn editor.buffer.text editor.currentLine := by
  have isLine : editor.currentLine ≤ editor.buffer.lastLine :=
    editor.buffer.lineOf_le_lastLine editor.position
  unfold Buffer.lineStart
  rw [Nat.min_eq_left isLine]

/-- What is kept of the cursor's line is what comes before its blanks there. -/
theorem CursorInText.length_openLine (inText : editor.CursorInText) :
    (Text.openLine editor.beforeBlanks).length = editor.keptColumns := by
  have starts := inText.endsBlank.starts
  have kept := Text.length_trimEnd_le editor.cursorText
  have own := editor.buffer.lineStart_add_lineText_le editor.currentLine
  have length :
      editor.beforeBlanks.length =
        min (editor.buffer.lineStart editor.currentLine + editor.keptColumns)
          editor.buffer.text.length :=
    List.length_take
  rw [← lineStart_currentLine, length] at starts
  unfold Buffer.length at own
  unfold keptColumns cursorText at *
  omega

/-- Where the blanks at the end of the cursor's line are. -/
def blankSpan (editor : Editor) : Span :=
  let start := editor.buffer.lineStart editor.currentLine
  ⟨start + editor.keptColumns, start + editor.cursorText.length⟩

theorem blankSpan_isRange (editor : Editor) :
    editor.blankSpan.IsRangeOf editor.buffer :=
  ⟨Nat.add_le_add_left (Text.length_trimEnd_le editor.cursorText) _,
    editor.buffer.lineStart_add_lineText_le editor.currentLine⟩

/-- Deleting the blanks is one deletion, if there are any. -/
theorem stripTrailingBlanks_runOn (editor : Editor) :
    stripTrailingBlanks.runOn editor =
      if editor.keptColumns < editor.cursorText.length then
        (CommandM.delete editor.blankSpan >>= fun _ => pure ()).runOn editor
      else
        (.ok (), editor) := by
  unfold stripTrailingBlanks
  rw [CommandM.runOn_get_bind]
  dsimp only
  split
  · rename_i someBlank
    rw [if_pos (show editor.keptColumns < editor.cursorText.length from someBlank)]
    rfl
  · rename_i noBlank
    rw [if_neg (show ¬ editor.keptColumns < editor.cursorText.length from noBlank)]
    rfl

/-- Deleting the blanks takes them out of the text, and leaves the cursor. -/
theorem stripTrailingBlanks_parts (editor : Editor) :
    (stripTrailingBlanks.runOn editor).2.buffer.text =
        editor.beforeBlanks ++ editor.behindBlanks ∧
      (stripTrailingBlanks.runOn editor).2.window = editor.window := by
  have isRange := editor.blankSpan_isRange
  rw [stripTrailingBlanks_runOn]
  split
  · have inRange :
        ∃ result,
          editor.buffer.delete editor.blankSpan.start editor.blankSpan.stop = .ok result :=
      Buffer.delete_accepted_iff.mpr ⟨isRange.ordered, isRange.inText⟩
    obtain ⟨⟨removed, changed⟩, accepted⟩ := inRange
    have ended :
        (CommandM.delete editor.blankSpan).runOn editor =
          (.ok removed, { editor with buffer := changed }) := by
      unfold CommandM.delete
      rw [CommandM.runOn_edit, accepted]
    rw [CommandM.runOn_bind, ended]
    exact ⟨Buffer.text_of_delete accepted, rfl⟩
  · rename_i noBlank
    have allKept : editor.keptColumns = editor.cursorText.length :=
      Nat.le_antisymm (Text.length_trimEnd_le editor.cursorText) (Nat.le_of_not_lt noBlank)
    refine ⟨?_, rfl⟩
    unfold beforeBlanks behindBlanks
    rw [allKept, List.take_append_drop]

/-- Leaving a mode leads to normal mode, without the blanks, and leaves the cursor. -/
theorem escape_parts (notNormal : editor.mode ≠ .normal) :
    editor.escape.mode = .normal ∧
      editor.escape.buffer.text = editor.beforeBlanks ++ editor.behindBlanks ∧
        editor.escape.position = editor.position := by
  let idle : Editor := { editor with dispatcher := editor.dispatcher.reset }
  let closed : Editor := (idle.attempt stripTrailingBlanks).2.closeInsertGroup
  have escaped : editor.escape = closed.setMode .normal :=
    if_neg notNormal
  obtain ⟨stripped, sameWindow⟩ := idle.stripTrailingBlanks_parts
  have sameText : closed.buffer.text = editor.beforeBlanks ++ editor.behindBlanks := by
    refine Eq.trans ?_ stripped
    show (closeInsertGroup _).buffer.text = _
    unfold closeInsertGroup
    split <;> rfl
  have samePlace : closed.position = editor.position := by
    refine Eq.trans ?_ (congrArg (fun window => window.cursor.position) sameWindow)
    show (closeInsertGroup _).position = _
    unfold closeInsertGroup
    split <;> rfl
  rw [escaped]
  refine ⟨setMode_mode _ _, ?_, ?_⟩
  · rw [(closed.setMode_parts .normal).1, sameText]
  · rw [← samePlace]
    unfold setMode
    split
    · rfl
    · split <;> rfl

theorem globalAction_of_isEscape
    {event : KeyEvent}
    (escapes : editor.isEscape event = true) :
    globalAction? event = none := by
  obtain ⟨key, modifiers, time⟩ := event
  simp only [isEscape, Bool.or_eq_true, Bool.and_eq_true, beq_iff_eq] at escapes
  rcases escapes with rfl | ⟨_, isBracket⟩
  · rfl
  · cases key with
    | char c =>
        simp only [KeyEvent.isCtrlChar, Bool.and_eq_true, beq_iff_eq] at isBracket
        have notEnter : ¬ (c = 'm' ∨ c = 'M') := by
          rintro (rfl | rfl) <;> exact absurd isBracket.2 (by decide)
        simp [globalAction?, isBracket.1, notEnter]
    | _ => contradiction

/-- A press that leaves the mode ends without the blanks, and with the cursor in the text. -/
theorem handleKey_escape
    {event : KeyEvent}
    (notNormal : editor.mode ≠ .normal)
    (closed : editor.commandLine = none)
    (escapes : editor.isEscape event = true) :
    let after := (editor.handleKey event).2
    let stripped := editor.beforeBlanks ++ editor.behindBlanks
    after.mode = .normal ∧
      after.buffer.text = stripped ∧ after.position = min editor.position stripped.length := by
  intro after stripped
  have routed : editor.fresh.route event = (true, editor.fresh.escape) := by
    have noLine : editor.fresh.commandLine = none := closed
    have leaves : editor.fresh.isEscape event = true := escapes
    unfold route
    rw [globalAction_of_isEscape escapes, noLine]
    dsimp only
    rw [if_pos leaves]
  have ended : after = (editor.fresh.escape.finishEvent editor.mode true).2 := by
    show (editor.handleKey event).2 = _
    unfold handleKey
    rw [show ({ editor with outcome := {} } : Editor).route event = _ from routed]
  obtain ⟨mode, text, place⟩ := editor.fresh.escape_parts notNormal
  rw [ended, finishEvent_mode, finishEvent_buffer, position, finishEvent_cursor]
  refine ⟨mode, text, ?_⟩
  show min editor.fresh.escape.position editor.fresh.escape.buffer.text.length = _
  rw [place, text]
  rfl

section Places

theorem currentLine_eq (inText : editor.position ≤ editor.buffer.length) :
    editor.currentLine = Text.lineOfIn editor.buffer.text editor.position := by
  unfold currentLine Buffer.lineOf
  rw [Buffer.clamp_of_le inText]

theorem cursorColumn_eq (inText : editor.position ≤ editor.buffer.length) :
    editor.cursorColumn =
      editor.position - Text.lineStartIn editor.buffer.text editor.currentLine := by
  rw [← lineStart_currentLine]
  unfold cursorColumn Buffer.columnOf
  rw [Buffer.clamp_of_le inText]
  rfl

end Places

/-- When the line of the cursor is kept, if blanks are deleted and the cursor pulled back. -/
theorem keepsCursorLine_iff
    {after : Editor}
    (inText : editor.CursorInText)
    (text : after.buffer.text = editor.beforeBlanks ++ editor.behindBlanks)
    (pulledBack :
      after.position =
        min editor.position (editor.beforeBlanks ++ editor.behindBlanks).length) :
    editor.KeepsCursorLine after ↔
      (editor.cursorColumn ≤ editor.keptColumns ∨
          editor.currentLine = editor.buffer.lastLine) ∧
        editor.BlanksJoinNoLines := by
  have endsBlank := inText.endsBlank
  have stillInText : after.position ≤ after.buffer.length := by
    rw [pulledBack, Buffer.length, text]
    exact Nat.min_le_right _ _
  have starts :
      Text.lineStartIn editor.buffer.text editor.currentLine ≤ editor.position := by
    rw [← lineStart_currentLine]
    exact editor.buffer.lineStart_lineOf_le inText.position
  have sameLine := currentLine_eq stillInText
  have column := cursorColumn_eq inText.position
  have columnAfter := cursorColumn_eq stillInText
  have kept := inText.length_openLine
  rw [text] at sameLine columnAfter
  constructor
  · intro keeps
    have othersKept := keeps.others
    rw [text] at othersKept
    obtain ⟨noBreak, apart⟩ := endsBlank.others_kept_iff.mp othersKept
    refine ⟨?_, noBreak, apart⟩
    have arrival := keeps.column
    rw [columnAfter, keeps.line, column, ← kept] at arrival
    rw [column, ← kept]
    exact (endsBlank.cursor_kept_iff noBreak apart starts pulledBack).mp
      ⟨sameLine.symm.trans keeps.line, arrival⟩
  · rintro ⟨fits, noBreak, apart⟩
    rw [column, ← kept] at fits
    obtain ⟨line, arrival⟩ :=
      (endsBlank.cursor_kept_iff noBreak apart starts pulledBack).mpr fits
    have othersKept := endsBlank.others_kept_iff.mpr ⟨noBreak, apart⟩
    rw [← text] at othersKept
    refine ⟨sameLine.trans line, ?_, othersKept⟩
    rw [columnAfter, sameLine.trans line, column, ← kept]
    exact arrival

/--
A press that leaves a mode between two operations of a session, with no input line open,
leads to normal mode.  It keeps the cursor on its line, within what is kept of the line,
and all other lines exactly if the cursor is not behind what is kept or the line is the
last one, and the deleted blanks have kept no two lines apart.
-/
theorem escape_keeps_cursor_line_iff
    {config : Config}
    {grammars : GrammarRegistry}
    {text : List Char}
    {started : Editor}
    (isStarted : start config grammars text = .ok started)
    (operations : List Operation)
    {event : KeyEvent}
    (notNormal : (started.afterAll operations).mode ≠ .normal)
    (closed : (started.afterAll operations).commandLine = none)
    (escapes : (started.afterAll operations).isEscape event = true) :
    let between := started.afterAll operations
    let after := (between.handleKey event).2
    after.mode = .normal ∧
      (between.KeepsCursorLine after ↔
        (between.cursorColumn ≤ between.keptColumns ∨
            between.currentLine = between.buffer.lastLine) ∧
          between.BlanksJoinNoLines) := by
  intro between after
  have inText : between.CursorInText := afterAll_cursorInText isStarted operations
  obtain ⟨mode, stripped, pulledBack⟩ := handleKey_escape notNormal closed escapes
  exact ⟨mode, keepsCursorLine_iff inText stripped pulledBack⟩

/--
Inserting at the end of a line with blanks there, the line is lost when the mode is left,
for the cursor comes to lie on the next one.  At the start of the line it is kept.
-/
theorem leaving_behind_blanks_loses_line :
    let atEnd := (demo "ab  \ncd".toList).afterAll [.execute (.insert .lineEnd) {}]
    let atStart := (demo "ab  \ncd".toList).afterAll [.execute (.insert .lineStart) {}]
    let escape : KeyEvent := { key := .escape }
    (atEnd.currentLine = 0 ∧
      (atEnd.handleKey escape).2.currentLine = 1 ∧
        ¬ atEnd.KeepsCursorLine (atEnd.handleKey escape).2) ∧
      (atStart.handleKey escape).2.mode = .normal ∧
        atStart.KeepsCursorLine (atStart.handleKey escape).2 := by
  intro atEnd atStart escape
  have behind :
      atEnd.currentLine = 0 ∧
        (atEnd.handleKey escape).2.currentLine = 1 ∧
          ¬ (atEnd.cursorColumn ≤ atEnd.keptColumns ∨
            atEnd.currentLine = atEnd.buffer.lastLine) := by
    decide +kernel
  have fits : atStart.cursorColumn ≤ atStart.keptColumns := by
    decide +kernel
  have joinsNone : atStart.BlanksJoinNoLines :=
    ⟨by decide +kernel, by decide +kernel⟩
  obtain ⟨_, lost⟩ :=
    @escape_keeps_cursor_line_iff _ _ _ _ (start_demo "ab  \ncd".toList)
      [.execute (.insert .lineEnd) {}] escape (by decide +kernel) (by decide +kernel)
      (by decide +kernel)
  obtain ⟨mode, kept⟩ :=
    @escape_keeps_cursor_line_iff _ _ _ _ (start_demo "ab  \ncd".toList)
      [.execute (.insert .lineStart) {}] escape (by decide +kernel) (by decide +kernel)
      (by decide +kernel)
  refine ⟨⟨behind.1, behind.2.1, ?_⟩, mode, kept.mpr ⟨.inl fits, joinsNone⟩⟩
  intro keeps
  exact behind.2.2 (lost.mp keeps).1

end ChordEditor.Editor
