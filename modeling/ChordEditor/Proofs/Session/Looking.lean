import ChordEditor.Proofs.Session.CursorInView
import ChordEditor.Proofs.Session.Steps

namespace ChordEditor

/-!
# Looking around with a selection

In the visual modes motions extend the selection from where it began.  Scrolling does so
only as long as the cursor stays in view: a cursor that is pulled along takes the anchor
with it, so that the mode goes on with nothing selected.  After any sequence of motions,
scrolling and centering the anchor is where scrolling has pulled the cursor last, or
where it was if it never did.
-/

/-- Whether an action only moves the cursor or the view. -/
def Action.looksAround : Action → Bool
  | .move _ | .scrollDown | .scrollUp | .centerView => true
  | _ => false

/--
Whether an operation moves the cursor or the view, or belongs to a chord that is not
finished: no press on a command line, and none that leaves the mode.
-/
def Operation.LooksAround (operation : Operation) (editor : Editor) : Prop :=
  match operation.actionOn? editor with
  | some (action, _) => action.looksAround = true
  | none =>
      match operation with
      | .handleKey event => editor.commandLine = none ∧ editor.isEscape event = false
      | _ => False

namespace Editor

/-- The place to which an action pulls the cursor by scrolling, if it does. -/
def pulledBy? (editor : Editor) : Action → CommandContext → Option Nat
  | .scrollDown, context =>
      editor.window.pulledTo? editor.buffer (editor.settings.scrollLines * context.count)
  | .scrollUp, context =>
      editor.window.pulledTo? editor.buffer (-(editor.settings.scrollLines * context.count))
  | _, _ => none

/-- The place to which an operation pulls the cursor by scrolling, if it does. -/
def pulledIn? (editor : Editor) (operation : Operation) : Option Nat :=
  (operation.actionOn? editor).bind fun (action, context) => editor.pulledBy? action context

/-- The place to which operations have pulled the cursor last by scrolling. -/
def lastPull? : Editor → List Operation → Option Nat
  | _, [] => none
  | editor, operation :: operations =>
      ((operation.run editor).lastPull? operations).or (editor.pulledIn? operation)

/-- The mode stays, and the anchor too unless the cursor is pulled somewhere. -/
structure Looks
    (pulled : Option Nat)
    (before after : Editor) : Prop where
  mode : after.mode = before.mode
  text : after.buffer.text = before.buffer.text
  anchor : after.window.cursor.anchor = pulled.getD before.window.cursor.anchor

variable {editor : Editor}

/-- A motion in a visual mode leaves the anchor. -/
theorem moveCursor_anchor
    (window : Window)
    (buffer : Buffer)
    (motion : Motion)
    (args : MotionArgs) :
    (window.moveCursor buffer motion args true).cursor.anchor = window.cursor.anchor := by
  rw [Window.moveCursor_cursor]
  rfl

/-- Scrolling leaves the anchor unless it pulls the cursor. -/
theorem scrollBy_anchor
    {window : Window}
    (someHeight : 0 < window.height)
    (buffer : Buffer)
    (lines : Int) :
    (window.scrollBy buffer lines).cursor.anchor =
      (window.pulledTo? buffer lines).getD window.cursor.anchor := by
  rw [Window.scrollBy_cursor buffer lines someHeight]
  cases window.pulledTo? buffer lines <;> rfl

/-- An action that looks around changes the window alone, and is not refused. -/
theorem runAction_of_change
    {action : Action}
    {context : CommandContext}
    {step : Editor → Editor}
    (changes : Commands.runAction action context = CommandM.change step)
    (notInsert : (step (editor.beginGroup action.name)).mode ≠ .insert) :
    editor.runAction action context = (step (editor.beginGroup action.name)).commitGroup := by
  have ended :
      (editor.beginGroup action.name).attempt (Commands.runAction action context) =
        (.ok (), step (editor.beginGroup action.name)) := by
    rw [changes]
    rfl
  rw [runAction_of_ended ended]
  exact if_neg fun inserts => notInsert inserts.1

theorem runAction_looks_around
    {action : Action}
    (looksAround : action.looksAround = true)
    (context : CommandContext)
    (visual : editor.mode.isVisual = true)
    (someHeight : 0 < editor.window.height) :
    editor.Looks (editor.pulledBy? action context) (editor.runAction action context) := by
  have notInsert : editor.mode ≠ .insert := by
    intro typing
    rw [typing] at visual
    contradiction
  cases action with
  | move motion =>
      rw [runAction_of_change rfl notInsert]
      refine ⟨rfl, rfl, ?_⟩
      show (editor.window.moveCursor _ motion _ editor.mode.isVisual).cursor.anchor = _
      rw [visual, moveCursor_anchor]
      rfl
  | scrollDown =>
      rw [runAction_of_change rfl notInsert]
      exact ⟨rfl, rfl, scrollBy_anchor someHeight editor.buffer _⟩
  | scrollUp =>
      rw [runAction_of_change rfl notInsert]
      exact ⟨rfl, rfl, scrollBy_anchor someHeight editor.buffer _⟩
  | centerView =>
      rw [runAction_of_change rfl notInsert]
      exact ⟨rfl, rfl, rfl⟩
  | _ => contradiction

/-- A place to which the cursor is pulled lies in the text. -/
theorem pulledBy_le
    {action : Action}
    {context : CommandContext}
    {place : Nat}
    (pulled : editor.pulledBy? action context = some place) :
    place ≤ editor.buffer.length := by
  have scrolled
      {lines : Int}
      (pulled : editor.window.pulledTo? editor.buffer lines = some place) :
      place ≤ editor.buffer.length := by
    unfold Window.pulledTo? at pulled
    dsimp only at pulled
    split at pulled
    · contradiction
    · cases pulled
      exact editor.buffer.offsetAt_le _ _
  unfold pulledBy? at pulled
  split at pulled
  · exact scrolled pulled
  · exact scrolled pulled
  · contradiction

/-- Ending an event moves no anchor that lies in the text. -/
theorem finishEvent_looks
    {after : Editor}
    {pulled : Option Nat}
    (looks : editor.Looks pulled after)
    (inText : editor.CursorInText)
    (pulledInText : ∀ place, pulled = some place → place ≤ editor.buffer.length)
    (modeBefore : Mode)
    (handled : Bool) :
    editor.Looks pulled (after.finishEvent modeBefore handled).2 := by
  have sameLength : after.buffer.length = editor.buffer.length :=
    congrArg List.length looks.text
  have anchorInText : after.window.cursor.anchor ≤ after.buffer.length := by
    rw [sameLength, looks.anchor]
    cases isPulled : pulled with
    | none => exact inText.anchor
    | some place => exact pulledInText place isPulled
  constructor
  · rw [finishEvent_mode]
    exact looks.mode
  · rw [finishEvent_buffer]
    exact looks.text
  · rw [finishEvent_cursor, ← looks.anchor]
    exact Nat.min_eq_left anchorInText

/-- An operation that looks around moves the anchor only by pulling the cursor. -/
theorem run_looks
    {operation : Operation}
    (looksAround : operation.LooksAround editor)
    (visual : editor.mode.isVisual = true)
    (settled : editor.CursorSettled) :
    editor.Looks (editor.pulledIn? operation) (operation.run editor) := by
  have someHeight := settled.showable.someHeight
  unfold Operation.LooksAround at looksAround
  unfold pulledIn?
  cases runs : operation.actionOn? editor with
  | some asked =>
      obtain ⟨action, context⟩ := asked
      rw [runs] at looksAround
      obtain ⟨dispatcher, modeBefore, handled, after⟩ := Operation.run_of_action runs
      have looks :
          editor.Looks (editor.pulledBy? action context)
            ({ editor.fresh with dispatcher }.runAction action context) := by
        have looked :=
          @runAction_looks_around { editor.fresh with dispatcher } action looksAround context
            visual someHeight
        have samePull :
            { editor.fresh with dispatcher }.pulledBy? action context =
              editor.pulledBy? action context := by
          cases action <;> rfl
        rw [samePull] at looked
        exact ⟨looked.mode, looked.text, looked.anchor⟩
      rw [after]
      exact finishEvent_looks looks settled.inText (fun _ => pulledBy_le) modeBefore handled
  | none =>
      rw [runs] at looksAround
      cases operation with
      | handleKey event =>
          obtain ⟨noLine, noEscape⟩ := looksAround
          have notInsert : editor.fresh.mode ≠ .insert := by
            intro typing
            rw [show editor.mode = .insert from typing] at visual
            contradiction
          obtain ⟨dispatcher, outcome, routed⟩ :=
            @route_of_no_action editor.fresh event runs noLine noEscape notInsert
          have looks : editor.Looks none (editor.fresh.route event).2 := by
            rw [routed]
            exact ⟨rfl, rfl, rfl⟩
          exact finishEvent_looks looks settled.inText nofun _ _
      | execute | submitCommandLine | loadSource | setGrammar =>
          exact looksAround.elim

/-- Operations that look around leave the mode, and the anchor where they pull it last. -/
theorem afterAll_looks
    {operations : List Operation}
    (lookAround : editor.EachMeets Operation.LooksAround operations)
    (visual : editor.mode.isVisual = true)
    (settled : editor.CursorSettled) :
    editor.Looks (editor.lastPull? operations) (editor.afterAll operations) := by
  induction operations generalizing editor with
  | nil =>
      exact ⟨rfl, rfl, rfl⟩
  | cons operation operations inductionHypothesis =>
      have first := run_looks lookAround.1 visual settled
      have rest :=
        inductionHypothesis lookAround.2 (first.mode ▸ visual)
          (run_cursorSettled editor operation settled)
      refine ⟨rest.mode.trans first.mode, rest.text.trans first.text, ?_⟩
      show ((operation.run editor).afterAll operations).window.cursor.anchor = _
      rw [rest.anchor, first.anchor, lastPull?]
      cases (operation.run editor).lastPull? operations <;> rfl

/--
In a visual mode, whatever motions, scrolling and centering follow, the mode stays, and
the anchor of the selection is where scrolling has pulled the cursor last; it stays put
if no scrolling pulls the cursor.
-/
theorem anchor_after_looking_around
    {config : Config}
    {grammars : GrammarRegistry}
    {text : List Char}
    {started : Editor}
    (isStarted : start config grammars text = .ok started)
    (operations : List Operation)
    {looking : List Operation}
    (visual : (started.afterAll operations).mode.isVisual = true)
    (lookAround : (started.afterAll operations).EachMeets Operation.LooksAround looking) :
    let before := started.afterAll operations
    let after := before.afterAll looking
    after.mode = before.mode ∧
      after.window.cursor.anchor =
        (before.lastPull? looking).getD before.window.cursor.anchor := by
  intro before after
  have settled : before.CursorSettled :=
    (throughout_of_run run_cursorSettled (start_cursorSettled isStarted) operations).last
  have looks := afterAll_looks lookAround visual settled
  exact ⟨looks.mode, looks.anchor⟩

/-- The small session with a character selected. -/
def demoSelecting : Editor :=
  (demo "a\nb\nc".toList).afterAll [.execute (.visual .visual) {}, .execute (.move .right) {}]

/-- Scrolling the first line out of view drops what is selected from it on. -/
theorem scrolling_takes_anchor_along :
    demoSelecting.mode = .visual ∧
      demoSelecting.window.cursor = ⟨0, 1⟩ ∧
        demoSelecting.lastPull? [.execute .scrollDown {}] = some 3 ∧
          (demoSelecting.afterAll [.execute .scrollDown {}]).window.cursor.anchor = 3 := by
  have visual : demoSelecting.mode = .visual := by
    decide +kernel
  have selected : demoSelecting.window.cursor = ⟨0, 1⟩ := by
    decide +kernel
  have pulled : demoSelecting.lastPull? [.execute .scrollDown {}] = some 3 := by
    decide +kernel
  have isVisual : demoSelecting.mode.isVisual = true := by
    rw [visual]
    rfl
  have lookAround :
      demoSelecting.EachMeets Operation.LooksAround [.execute .scrollDown {}] :=
    ⟨rfl, trivial⟩
  have looked :=
    anchor_after_looking_around (start_demo "a\nb\nc".toList)
      [.execute (.visual .visual) {}, .execute (.move .right) {}] isVisual lookAround
  refine ⟨visual, selected, pulled, ?_⟩
  have anchor :
      (demoSelecting.afterAll [.execute .scrollDown {}]).window.cursor.anchor =
        (demoSelecting.lastPull? [.execute .scrollDown {}]).getD
          demoSelecting.window.cursor.anchor := looked.2
  rw [anchor, pulled]
  rfl

end Editor

end ChordEditor
