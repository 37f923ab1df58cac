import ChordEditor.Proofs.Commands.Working
import ChordEditor.Proofs.Session.Operations
import ChordEditor.Proofs.Window.InView

namespace ChordEditor.Editor

/-!
# The cursor stays in the text

Every event ends by pulling both ends of the selection back into the text, wherever the
commands have left them, and a text that is loaded has its cursor put inside.  So the
cursor lies in the text between any two operations.
-/

variable {editor : Editor}

/-- Highlighting and finding matches anew leaves the window, the register and the mode. -/
theorem refresh_eq (editor : Editor) :
    ∃ buffer highlight search outcome,
      editor.refreshHighlight.refreshSearch =
        { editor with buffer, highlight, search, outcome } := by
  have searched (shown : Editor) :
      ∃ search, shown.refreshSearch = { shown with search } := by
    unfold refreshSearch
    split <;> exact ⟨_, rfl⟩
  have highlighted :
      ∃ buffer highlight outcome,
        editor.refreshHighlight = { editor with buffer, highlight, outcome } := by
    unfold refreshHighlight
    split <;> exact ⟨_, _, _, rfl⟩
  obtain ⟨buffer, highlight, outcome, shown⟩ := highlighted
  obtain ⟨search, refreshed⟩ := searched { editor with buffer, highlight, outcome }
  rw [shown, refreshed]
  exact ⟨buffer, highlight, search, outcome, rfl⟩

theorem refresh_window (editor : Editor) :
    editor.refreshHighlight.refreshSearch.window = editor.window := by
  obtain ⟨_, _, _, _, refreshed⟩ := editor.refresh_eq
  rw [refreshed]

/-- Ending an event changes what is shown, and nothing of what else a session holds. -/
theorem finishEvent_eq
    (editor : Editor)
    (modeBefore : Mode)
    (handled : Bool) :
    ∃ buffer window highlight search outcome,
      (editor.finishEvent modeBefore handled).2 =
        { editor with buffer, window, highlight, search, outcome } := by
  unfold finishEvent settle
  dsimp only
  obtain ⟨buffer, highlight, search, outcome, refreshed⟩ :=
    Editor.refresh_eq
      { editor with
        window := (editor.window.clampCursor editor.buffer).showCursor editor.buffer }
  rw [refreshed]
  exact ⟨buffer, _, highlight, search, _, rfl⟩

/-- Ending an event pulls the cursor back into the text. -/
theorem finishEvent_cursor
    (editor : Editor)
    (modeBefore : Mode)
    (handled : Bool) :
    (editor.finishEvent modeBefore handled).2.window.cursor =
      editor.window.cursor.clamp editor.buffer.length := by
  unfold finishEvent settle
  dsimp only
  rw [refresh_window, Window.showCursor_cursor]
  rfl

theorem finishEvent_cursorInText
    (editor : Editor)
    (modeBefore : Mode)
    (handled : Bool) :
    (editor.finishEvent modeBefore handled).2.CursorInText := by
  have pulledBack := editor.finishEvent_cursor modeBefore handled
  constructor
  · rw [position, pulledBack, finishEvent_buffer]
    exact Nat.min_le_right _ _
  · rw [pulledBack, finishEvent_buffer]
    exact Nat.min_le_right _ _

theorem replaceDocument_cursorInText
    (editor : Editor)
    (text : List Char) :
    (editor.replaceDocument text).CursorInText :=
  ⟨Nat.zero_le _, Nat.zero_le _⟩

theorem loadSource_cursorInText
    (editor : Editor)
    (source : String)
    (text : List Char) :
    (editor.loadSource source text).CursorInText := by
  have replaced := editor.rememberCursor.replaceDocument_cursorInText text
  have recalled :
      ((editor.rememberCursor.replaceDocument text).recallCursor source).CursorInText := by
    unfold recallCursor
    split
    · exact ⟨Buffer.clamp_le _ _, Buffer.clamp_le _ _⟩
    · exact replaced
  exact ⟨recalled.position, recalled.anchor⟩

/-- Every operation leaves the cursor in the text. -/
theorem run_cursorInText
    (operation : Operation)
    (inText : editor.CursorInText) :
    (operation.run editor).CursorInText := by
  cases operation with
  | handleKey event => exact finishEvent_cursorInText _ _ _
  | execute action context => exact finishEvent_cursorInText _ _ _
  | submitCommandLine input => exact finishEvent_cursorInText _ _ _
  | loadSource source text => exact editor.loadSource_cursorInText source text
  | setGrammar name =>
      rw [Operation.run_setGrammar]
      split
      · exact ⟨inText.position, inText.anchor⟩
      · exact inText

/-- The cursor lies in the text after every run of a session. -/
theorem afterAll_cursorInText
    {config : Config}
    {grammars : GrammarRegistry}
    {text : List Char}
    {started : Editor}
    (isStarted : start config grammars text = .ok started)
    (operations : List Operation) :
    (started.afterAll operations).CursorInText := by
  have atStart : started.CursorInText := by
    obtain ⟨empty, rfl⟩ := started_eq isStarted
    exact empty.replaceDocument_cursorInText text
  clear isStarted
  induction operations generalizing started with
  | nil =>
      exact atStart
  | cons operation operations inductionHypothesis =>
      exact inductionHypothesis (run_cursorInText operation atStart)

end ChordEditor.Editor
