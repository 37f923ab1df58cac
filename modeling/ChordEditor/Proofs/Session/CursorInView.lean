import ChordEditor.Proofs.Session.CursorInText
import ChordEditor.Proofs.Session.Stability

namespace ChordEditor.Editor

/-!
# The cursor stays in view

Commands may leave the cursor behind the text or out of view, but not with a selection
outside of the visual modes, and they never change the height of the view.  Ending the
event does the rest: it pulls the cursor into the text and the view to the cursor.
-/

/-- What a host may rely on about the cursor between two operations. -/
structure CursorSettled (editor : Editor) : Prop where
  inText : editor.CursorInText
  collapsed :
    editor.mode = .normal ∨ editor.mode = .insert →
      editor.window.cursor.anchor = editor.window.cursor.position
  inView :
    editor.window.scroll ≤ editor.currentLine ∧
      editor.currentLine < editor.window.scroll + editor.window.height

/-- What of it holds in the middle of an event, too. -/
structure Showable (editor : Editor) : Prop where
  someHeight : 0 < editor.window.height
  collapsed :
    editor.mode.isVisual = false →
      editor.window.cursor.anchor = editor.window.cursor.position

theorem not_visual_iff (mode : Mode) :
    mode.isVisual = false ↔ mode = .normal ∨ mode = .insert := by
  cases mode <;> decide

/-- Outside of the visual modes no primitive change leaves a selection. -/
theorem showable_of_primitive
    {before after : Editor}
    (primitive : before.Primitive after)
    (showable : before.Showable) :
    after.Showable := by
  cases primitive with
  | edits | dropsSearch | searchesFor =>
      exact ⟨showable.someHeight, showable.collapsed⟩
  | moves sameHeight cursor =>
      constructor
      · rw [sameHeight]
        exact showable.someHeight
      · intro notVisual
        dsimp only at notVisual ⊢
        rcases cursor with stays | dropped | visual
        · rw [stays]
          exact showable.collapsed notVisual
        · exact dropped
        · rw [notVisual] at visual
          contradiction
  | setsMode mode =>
      unfold setMode
      split
      · exact showable
      · split
        · rename_i bothVisual
          refine ⟨showable.someHeight, ?_⟩
          intro notVisual
          exact absurd (bothVisual.1.symm.trans notVisual) nofun
        · exact ⟨showable.someHeight, fun _ => rfl⟩
  | notes _ window mode _ _ =>
      constructor
      · rw [window]
        exact showable.someHeight
      · rw [window, mode]
        exact showable.collapsed

theorem showable_stable : Stable Showable where
  primitive _ _ := showable_of_primitive
  takenBack _ _ showable _ := ⟨showable.someHeight, showable.collapsed⟩

/-- Ending an event pulls the cursor into the text, and then the view to the cursor. -/
theorem finishEvent_window
    (editor : Editor)
    (modeBefore : Mode)
    (handled : Bool) :
    (editor.finishEvent modeBefore handled).2.window =
      (editor.window.clampCursor editor.buffer).showCursor editor.buffer := by
  unfold finishEvent settle
  dsimp only
  rw [refresh_window]

theorem finishEvent_cursorSettled
    {editor : Editor}
    (showable : editor.Showable)
    (modeBefore : Mode)
    (handled : Bool) :
    (editor.finishEvent modeBefore handled).2.CursorSettled := by
  have shown := editor.finishEvent_window modeBefore handled
  refine ⟨finishEvent_cursorInText editor modeBefore handled, ?_, ?_⟩
  · intro unselecting
    rw [finishEvent_mode, ← not_visual_iff] at unselecting
    have collapsed := showable.collapsed unselecting
    rw [finishEvent_cursor]
    exact congrArg (min · editor.buffer.length) collapsed
  · have someHeight : 0 < (editor.window.clampCursor editor.buffer).height :=
      showable.someHeight
    have inView := Window.showCursor_inView editor.buffer someHeight
    rw [← shown] at inView
    unfold currentLine
    rw [finishEvent_buffer]
    exact inView

/-- A text that is swapped in is shown from its start, with the cursor there. -/
theorem replaceDocument_cursorSettled
    (editor : Editor)
    (text : List Char) :
    (editor.replaceDocument text).CursorSettled := by
  refine ⟨editor.replaceDocument_cursorInText text, fun _ => rfl, Nat.zero_le _, ?_⟩
  have firstLine : (editor.replaceDocument text).currentLine = 0 := by
    show Text.lineOfIn text 0 = 0
    unfold Text.lineOfIn
    rfl
  have someHeight : 1 ≤ (editor.replaceDocument text).window.height := Nat.le_max_right _ _
  omega

theorem loadSource_cursorSettled
    (editor : Editor)
    (source : String)
    (text : List Char) :
    (editor.loadSource source text).CursorSettled := by
  have replaced := editor.rememberCursor.replaceDocument_cursorSettled text
  have recalled :
      ((editor.rememberCursor.replaceDocument text).recallCursor source).CursorSettled := by
    unfold recallCursor
    split
    · rename_i place _
      generalize editor.rememberCursor.replaceDocument text = shown at replaced
      have someHeight : 0 < (shown.setCursor place).window.height := by
        have inView := replaced.inView
        show 0 < shown.window.height
        omega
      exact
        { inText := ⟨Buffer.clamp_le _ _, Buffer.clamp_le _ _⟩
          collapsed := fun _ => rfl
          inView := Window.centerOnCursor_inView _ someHeight }
    · exact replaced
  exact ⟨⟨recalled.inText.position, recalled.inText.anchor⟩, recalled.collapsed, recalled.inView⟩

theorem start_cursorSettled
    {config : Config}
    {grammars : GrammarRegistry}
    {text : List Char}
    {started : Editor}
    (isStarted : start config grammars text = .ok started) :
    started.CursorSettled := by
  obtain ⟨empty, rfl⟩ := started_eq isStarted
  exact empty.replaceDocument_cursorSettled text

theorem CursorSettled.showable
    {editor : Editor}
    (settled : editor.CursorSettled) :
    editor.Showable := by
  have inView := settled.inView
  refine ⟨by omega, ?_⟩
  intro notVisual
  exact settled.collapsed ((not_visual_iff editor.mode).mp notVisual)

/-- Every operation leaves the cursor settled. -/
theorem run_cursorSettled
    (editor : Editor)
    (operation : Operation)
    (settled : editor.CursorSettled) :
    (operation.run editor).CursorSettled := by
  refine showable_stable.run (fun _ settled => settled.showable) ?_ ?_ ?_ operation settled
  · intro editor modeBefore handled showable
    exact finishEvent_cursorSettled showable modeBefore handled
  · intro editor grammar highlight settled
    have inText := settled.inText
    exact ⟨⟨inText.position, inText.anchor⟩, settled.collapsed, settled.inView⟩
  · intro editor source text _
    exact editor.loadSource_cursorSettled source text

/--
Before, between and after the operations of a session both ends of the selection lie in
the text, nothing is selected in normal and insert mode, and the line of the cursor is
in view.
-/
theorem cursor_settled_throughout
    {config : Config}
    {grammars : GrammarRegistry}
    {text : List Char}
    {started : Editor}
    (isStarted : start config grammars text = .ok started)
    (operations : List Operation) :
    started.Throughout CursorSettled operations :=
  throughout_of_run run_cursorSettled (start_cursorSettled isStarted) operations

/--
Two lines are selected upwards from the end of the text and deleted, and that is undone: the
cursor stays settled, and nothing is selected any more.
-/
theorem cursor_settled_while_deleting_selection :
    let selecting : List Operation :=
      [.execute (.move .documentEnd) {}, .execute (.visual .visualLine) {},
        .execute (.move .up) {}]
    let selected := (demo "a\nb\nc".toList).afterAll selecting
    let deleted := (Operation.execute .deleteSelection {}).run selected
    let undone := (Operation.execute .undo {}).run deleted
    (demo "a\nb\nc".toList).Throughout CursorSettled
        (selecting ++ [.execute .deleteSelection {}, .execute .undo {}]) ∧
      (selected.mode = .visualLine ∧ selected.window.cursor = ⟨5, 3⟩) ∧
        (deleted.mode = .normal ∧ deleted.buffer.text = ['a'] ∧
            deleted.window.cursor = .atPlace 0) ∧
          undone.buffer.text = selected.buffer.text ∧
            undone.window.cursor.hasSelection = false := by
  intro selecting selected deleted undone
  refine ⟨cursor_settled_throughout (start_demo _) _, ?_⟩
  decide +kernel

end ChordEditor.Editor
