import ChordEditor.Editor.Overflow

namespace ChordEditor

/-!
# Operations on a session

What a host can do to a session, and runs of it.  Every event ends by settling the
session, which changes the cursor, the view, the search and the highlighting, but
neither the text, its history, the mode nor the grammar.
-/

/-- What a host can do to a session. -/
inductive Operation where
  | handleKey (event : KeyEvent)
  | execute (action : Action) (context : CommandContext)
  | submitCommandLine (input : List Char)
  | loadSource (source : String) (text : List Char)
  | setGrammar (name : String)

namespace Operation

/-- The session after an operation; a grammar that is not known leaves it as it was. -/
def run (operation : Operation) (editor : Editor) : Editor :=
  match operation with
  | .handleKey event => (editor.handleKey event).2
  | .execute action context => (editor.execute action context).2
  | .submitCommandLine input => (editor.submitCommandLine input).2
  | .loadSource source text => editor.loadSource source text
  | .setGrammar name =>
      match editor.setGrammar name with
      | .ok changed => changed
      | .error _ => editor

/-- The session after an operation in machine words, if it does not stop the program. -/
def run? (operation : Operation) (editor : Editor) : Option Editor :=
  match operation with
  | .handleKey event => (editor.handleKey? event).map Prod.snd
  | .execute action context => (editor.execute? action context).map Prod.snd
  | operation => some (operation.run editor)

/-- Changing over to a known grammar highlights the text anew. -/
theorem run_setGrammar
    (editor : Editor)
    (name : String) :
    (Operation.setGrammar name).run editor =
      match editor.grammars.get name with
      | .ok grammar =>
          { editor with
            grammar
            highlight := (HighlightCache.rebuild grammar editor.buffer).2 }
      | .error _ => editor := by
  show (match editor.setGrammar name with
    | .ok changed => changed
    | .error _ => editor) = _
  unfold Editor.setGrammar
  cases editor.grammars.get name <;> rfl

/-- Whether an operation runs an action without a chord. -/
def isExecute : Operation → Bool
  | .execute _ _ => true
  | _ => false

end Operation

namespace Editor

/-- The session after operations, the first one first. -/
def afterAll (editor : Editor) (operations : List Operation) : Editor :=
  operations.foldl (fun editor operation => operation.run editor) editor

/-- Something holds before, between and after operations. -/
def Throughout (holds : Editor → Prop) : Editor → List Operation → Prop
  | editor, [] => holds editor
  | editor, operation :: operations =>
      holds editor ∧ Throughout holds (operation.run editor) operations

/-- Each operation meets a condition on the session that it runs on. -/
def EachMeets (condition : Operation → Editor → Prop) : Editor → List Operation → Prop
  | _, [] => True
  | editor, operation :: operations =>
      condition operation editor ∧ EachMeets condition (operation.run editor) operations

/-- What each operation preserves under a condition holds throughout a run that meets it. -/
theorem throughout_of_eachMeets
    {holds : Editor → Prop}
    {condition : Operation → Editor → Prop}
    (preserved :
      ∀ editor operation,
        holds editor → condition operation editor → holds (operation.run editor))
    {editor : Editor}
    {operations : List Operation}
    (atStart : holds editor)
    (met : editor.EachMeets condition operations) :
    editor.Throughout holds operations := by
  induction operations generalizing editor with
  | nil =>
      exact atStart
  | cons operation operations inductionHypothesis =>
      exact
        ⟨atStart, inductionHypothesis (preserved editor operation atStart met.1) met.2⟩

/-- A condition that every operation of a run meets on any session is met throughout it. -/
theorem eachMeets_of_forall
    {condition : Operation → Editor → Prop}
    {operations : List Operation}
    (met : ∀ operation ∈ operations, ∀ editor, condition operation editor)
    (editor : Editor) :
    editor.EachMeets condition operations := by
  induction operations generalizing editor with
  | nil =>
      trivial
  | cons operation operations inductionHypothesis =>
      constructor
      · exact met operation List.mem_cons_self editor
      · apply inductionHypothesis
        intro later isLater
        exact met later (List.mem_cons_of_mem operation isLater)

/-- What every operation preserves holds throughout every run. -/
theorem throughout_of_run
    {holds : Editor → Prop}
    (preserved :
      ∀ editor (operation : Operation), holds editor → holds (operation.run editor))
    {editor : Editor}
    (atStart : holds editor)
    (operations : List Operation) :
    editor.Throughout holds operations := by
  have always : editor.EachMeets (fun _ _ => True) operations :=
    eachMeets_of_forall (fun _ _ _ => trivial) editor
  apply throughout_of_eachMeets _ atStart always
  intro editor operation held _
  exact preserved editor operation held

/-- What holds throughout a run implies throughout it. -/
theorem Throughout.imp
    {holds implied : Editor → Prop}
    (implies : ∀ editor, holds editor → implied editor)
    {editor : Editor}
    {operations : List Operation}
    (throughout : editor.Throughout holds operations) :
    editor.Throughout implied operations := by
  induction operations generalizing editor with
  | nil =>
      exact implies editor throughout
  | cons operation operations inductionHypothesis =>
      exact ⟨implies editor throughout.1, inductionHypothesis throughout.2⟩

/-- What holds throughout a run holds before it. -/
theorem Throughout.first
    {holds : Editor → Prop}
    {editor : Editor}
    {operations : List Operation}
    (throughout : editor.Throughout holds operations) :
    holds editor := by
  cases operations with
  | nil => exact throughout
  | cons operation operations => exact throughout.1

/-- What holds throughout a run holds after it. -/
theorem Throughout.last
    {holds : Editor → Prop}
    {editor : Editor}
    {operations : List Operation}
    (throughout : editor.Throughout holds operations) :
    holds (editor.afterAll operations) := by
  induction operations generalizing editor with
  | nil =>
      exact throughout
  | cons operation operations inductionHypothesis =>
      exact inductionHypothesis throughout.2

/--
Something holds throughout a run exactly if each operation meets a condition, where an
invariant that implies it is kept under the condition, and it is lost without.
-/
theorem throughout_iff_eachMeets
    {invariant holds : Editor → Prop}
    {condition : Operation → Editor → Prop}
    (implies : ∀ editor, invariant editor → holds editor)
    (kept :
      ∀ editor operation,
        invariant editor → condition operation editor → invariant (operation.run editor))
    (needed :
      ∀ editor operation,
        invariant editor → holds (operation.run editor) → condition operation editor)
    {editor : Editor}
    (atStart : invariant editor)
    (operations : List Operation) :
    editor.Throughout holds operations ↔ editor.EachMeets condition operations := by
  constructor
  · intro throughout
    induction operations generalizing editor with
    | nil =>
        trivial
    | cons operation operations inductionHypothesis =>
        have met := needed editor operation atStart throughout.2.first
        exact ⟨met, inductionHypothesis (kept editor operation atStart met) throughout.2⟩
  · intro met
    exact (throughout_of_eachMeets kept atStart met).imp implies

/-- A session that is started shows what a text that is swapped in shows. -/
theorem started_eq
    {config : Config}
    {grammars : GrammarRegistry}
    {text : List Char}
    {started : Editor}
    (isStarted : start config grammars text = .ok started) :
    ∃ empty : Editor, started = empty.replaceDocument text := by
  unfold start at isStarted
  cases found : grammars.get config.settings.grammar with
  | error error =>
      rw [found] at isStarted
      cases isStarted
  | ok grammar =>
      rw [found] at isStarted
      cases isStarted
      exact ⟨_, rfl⟩

variable (editor : Editor)

/-- The editor on which an event is handled: nothing has been done yet. -/
def fresh : Editor :=
  { editor with outcome := {} }

/-- Highlighting anew takes the note of the touched lines out of the buffer. -/
theorem refreshHighlight_buffer :
    editor.refreshHighlight.buffer = { editor.buffer with dirty := none } := by
  unfold refreshHighlight Buffer.takeDirty
  cases noted : editor.buffer.dirty with
  | none =>
      show editor.buffer = { editor.buffer with dirty := none }
      rw [← noted]
  | some dirty =>
      rfl

/-- Highlighting anew updates the cache for the touched lines, if there are any. -/
theorem refreshHighlight_highlight :
    editor.refreshHighlight.highlight =
      match editor.buffer.dirty with
      | some dirty =>
          (editor.highlight.update editor.grammar { editor.buffer with dirty := none }
            dirty).2
      | none => editor.highlight := by
  unfold refreshHighlight Buffer.takeDirty
  cases editor.buffer.dirty <;> rfl

/-- Highlighting anew changes neither mode, grammar nor the note of an insert session. -/
theorem refreshHighlight_parts :
    editor.refreshHighlight.mode = editor.mode ∧
      editor.refreshHighlight.grammar = editor.grammar ∧
        editor.refreshHighlight.insertGroupOpen = editor.insertGroupOpen := by
  unfold refreshHighlight
  split <;> exact ⟨rfl, rfl, rfl⟩

/-- Finding matches anew changes the search alone. -/
theorem refreshSearch_parts :
    editor.refreshSearch.buffer = editor.buffer ∧
      editor.refreshSearch.mode = editor.mode ∧
        editor.refreshSearch.grammar = editor.grammar ∧
          editor.refreshSearch.highlight = editor.highlight ∧
            editor.refreshSearch.insertGroupOpen = editor.insertGroupOpen := by
  unfold refreshSearch
  split <;> exact ⟨rfl, rfl, rfl, rfl, rfl⟩

section Finish

variable (modeBefore : Mode) (handled : Bool)

/-- Ending an event changes nothing of the buffer but the note of the touched lines. -/
@[simp]
theorem finishEvent_buffer :
    (editor.finishEvent modeBefore handled).2.buffer =
      { editor.buffer with dirty := none } := by
  unfold finishEvent settle
  dsimp only
  rw [(refreshSearch_parts _).1, refreshHighlight_buffer]

@[simp]
theorem finishEvent_mode :
    (editor.finishEvent modeBefore handled).2.mode = editor.mode := by
  unfold finishEvent settle
  dsimp only
  rw [(refreshSearch_parts _).2.1, (refreshHighlight_parts _).1]

@[simp]
theorem finishEvent_grammar :
    (editor.finishEvent modeBefore handled).2.grammar = editor.grammar := by
  unfold finishEvent settle
  dsimp only
  rw [(refreshSearch_parts _).2.2.1, (refreshHighlight_parts _).2.1]

@[simp]
theorem finishEvent_insertGroupOpen :
    (editor.finishEvent modeBefore handled).2.insertGroupOpen = editor.insertGroupOpen := by
  unfold finishEvent settle
  dsimp only
  rw [(refreshSearch_parts _).2.2.2.2, (refreshHighlight_parts _).2.2]

/-- Ending an event updates the highlighting for the touched lines. -/
theorem finishEvent_highlight :
    (editor.finishEvent modeBefore handled).2.highlight =
      match editor.buffer.dirty with
      | some dirty =>
          (editor.highlight.update editor.grammar { editor.buffer with dirty := none }
            dirty).2
      | none => editor.highlight := by
  unfold finishEvent settle
  dsimp only
  rw [(refreshSearch_parts _).2.2.2.1, refreshHighlight_highlight]

end Finish

/-- A press leaves the mode to which it is routed. -/
theorem handleKey_mode (event : KeyEvent) :
    (editor.handleKey event).2.mode = (editor.fresh.route event).2.mode :=
  finishEvent_mode _ _ _

/-- A press leaves the buffer to which it is routed, with no touched lines noted. -/
theorem handleKey_buffer (event : KeyEvent) :
    (editor.handleKey event).2.buffer =
      { (editor.fresh.route event).2.buffer with dirty := none } :=
  finishEvent_buffer _ _ _

section Demo

/-- The settings of a small session: control and a begins to insert. -/
def demoConfig : Config :=
  { tables :=
      ({} : KeyTables).bind .normal ⟨[.ctrl 'a'], by simp, by decide⟩
        (.insert .beforeCursor) }

/-- The grammars of a small session: one with a comment that may go over several lines. -/
def demoGrammars : GrammarRegistry :=
  ({} : GrammarRegistry).register
    { name := "python"
      commentMarker := ['#']
      constructs := [⟨['(', '*'], ['*', ')'], .comment⟩] } []

/-- A small session with a text. -/
def demo (text : List Char) : Editor :=
  (start demoConfig demoGrammars text).toOption.get rfl

/-- The small session can be started with any text. -/
theorem start_demo (text : List Char) :
    start demoConfig demoGrammars text = .ok (demo text) :=
  rfl

/-- The press that begins to insert in the small session. -/
def insertPress : KeyEvent :=
  { key := .char 'a', modifiers := { ctrl := true } }

end Demo

end Editor

end ChordEditor
