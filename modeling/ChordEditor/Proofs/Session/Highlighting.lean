import ChordEditor.Proofs.Highlight.Update
import ChordEditor.Proofs.Session.Edits

namespace ChordEditor

/-!
# Highlighting of a session

Highlighting anew only what an event has touched gives what a session that is started
with the present text would show, exactly as long as the states that are kept are those
of the present text.  They are if every edit adds as many lines as it is noted with.  An
edit that splits a CR LF, or puts one together, may not, and a line that it has changed
may then be passed over.  Where no CR comes into a session, every edit does.
-/

namespace Editor

/-- The highlighting is that of a session started with the text and the grammar. -/
def HighlightsAsStarted (editor : Editor) : Prop :=
  editor.highlight = (HighlightCache.rebuild editor.grammar editor.buffer).2 ∧
    ∀ config grammars started,
      start config grammars editor.buffer.text = .ok started →
        started.grammar = editor.grammar →
          ∀ line,
            editor.lineState line = started.lineState line ∧
              editor.highlightLine line = started.highlightLine line

/-- The cache is what going through the whole text gives, and no touched lines are noted. -/
structure Highlighted (editor : Editor) : Prop where
  rebuilt : editor.highlight = (HighlightCache.rebuild editor.grammar editor.buffer).2
  settled : editor.buffer.dirty = none

/-- A highlighted session with a history that accounts for its text. -/
structure InOrder (editor : Editor) : Prop extends Highlighted editor where
  sound : editor.buffer.Sound

/-- The states that are kept when the touched lines are highlighted are those of the text. -/
def KeepsRightStates (worked : Editor) : Prop :=
  ∀ dirty,
    worked.buffer.dirty = some dirty →
      HighlightCache.RightOutside
        (worked.highlight.update worked.grammar worked.buffer dirty).1
        worked.grammar worked.buffer.lineTexts
        (worked.highlight.update worked.grammar worked.buffer dirty).2

end Editor

namespace Operation

/-- The states that are kept at the end of an event are right. -/
def KeepsRightStates (operation : Operation) (editor : Editor) : Prop :=
  ∀ worked, operation.worked? editor = some worked → worked.KeepsRightStates

end Operation

namespace Editor

variable {before worked editor : Editor}

/-- A text that is swapped in is highlighted as a whole. -/
theorem replaceDocument_highlighted
    (editor : Editor)
    (text : List Char) :
    (editor.replaceDocument text).Highlighted :=
  ⟨rfl, rfl⟩

/-- A session that is started is in order. -/
theorem start_inOrder
    {config : Config}
    {grammars : GrammarRegistry}
    {text : List Char}
    {started : Editor}
    (isStarted : start config grammars text = .ok started) :
    started.InOrder := by
  have sound := start_sound isStarted
  obtain ⟨empty, rfl⟩ := started_eq isStarted
  exact { replaceDocument_highlighted empty text with sound }

theorem loadSource_highlighted
    (editor : Editor)
    (source : String)
    (text : List Char) :
    (editor.loadSource source text).Highlighted := by
  unfold loadSource recallCursor
  split
  · exact ⟨rfl, rfl⟩
  · exact ⟨rfl, rfl⟩

/-- Going through the lines of a buffer depends on its text alone. -/
theorem rebuild_congr
    (grammar : Grammar)
    {first second : Buffer}
    (sameText : first.text = second.text) :
    (HighlightCache.rebuild grammar first).2 = (HighlightCache.rebuild grammar second).2 := by
  unfold HighlightCache.rebuild Buffer.lineTexts
  rw [sameText]

/-- A highlighted session shows what one that is started with its text shows. -/
theorem Highlighted.asStarted
    (highlighted : editor.Highlighted) :
    editor.HighlightsAsStarted := by
  refine ⟨highlighted.rebuilt, ?_⟩
  intro config grammars started isStarted sameGrammar line
  obtain ⟨empty, rfl⟩ := started_eq isStarted
  have sameText : editor.buffer.text = (empty.replaceDocument editor.buffer.text).buffer.text :=
    rfl
  have sameCache :
      editor.highlight = (empty.replaceDocument editor.buffer.text).highlight := by
    rw [highlighted.rebuilt,
      (replaceDocument_highlighted empty editor.buffer.text).rebuilt, sameGrammar]
    exact rebuild_congr _ sameText
  constructor
  · unfold lineState
    rw [sameCache]
  · unfold highlightLine
    rw [sameCache, sameGrammar]
    rfl

/-- An event leaves a session highlighted exactly if the states that it keeps are right. -/
theorem Highlighted.finishEvent_iff
    {allowed : Edit → List Char → Prop}
    (highlighted : before.Highlighted)
    (sameGrammar : worked.grammar = before.grammar)
    (sameHighlight : worked.highlight = before.highlight)
    (changes : before.buffer.ChangesBy allowed worked.buffer)
    (modeBefore : Mode)
    (handled : Bool) :
    (worked.finishEvent modeBefore handled).2.Highlighted ↔ worked.KeepsRightStates := by
  have settled : (worked.finishEvent modeBefore handled).2.buffer.dirty = none := by
    rw [finishEvent_buffer]
  have highlight := worked.finishEvent_highlight modeBefore handled
  unfold KeepsRightStates
  cases noted : worked.buffer.dirty with
  | none =>
      rw [noted] at highlight
      have sameText : worked.buffer.text = before.buffer.text :=
        changes.text_of_clean noted
      constructor
      · intro _ dirty isNoted
        contradiction
      · intro _
        refine ⟨?_, settled⟩
        rw [highlight, finishEvent_grammar, finishEvent_buffer, sameHighlight, sameGrammar,
          highlighted.rebuilt]
        exact rebuild_congr _ sameText.symm
  | some dirty =>
      rw [noted] at highlight
      have right_iff :
          (worked.highlight.update worked.grammar worked.buffer dirty).2.states =
              HighlightCache.statesOf worked.grammar none worked.buffer.lineTexts ↔ _ :=
        HighlightCache.update_right_iff
      constructor
      · intro highlightedAfter other isNoted
        cases isNoted
        have rebuilt := highlightedAfter.rebuilt
        rw [highlight, finishEvent_grammar, finishEvent_buffer] at rebuilt
        exact right_iff.mp (congrArg HighlightCache.states rebuilt)
      · intro keepsRight
        refine ⟨?_, settled⟩
        rw [highlight, finishEvent_grammar, finishEvent_buffer]
        exact congrArg HighlightCache.mk (right_iff.mpr (keepsRight dirty rfl))

/-- The states that are kept are right if every edit adds as many lines as it is noted with. -/
theorem Highlighted.keepsRightStates
    (highlighted : before.Highlighted)
    (sameGrammar : worked.grammar = before.grammar)
    (sameHighlight : worked.highlight = before.highlight)
    (changes : before.buffer.ChangesBy Buffer.IsNotedRightly worked.buffer) :
    worked.KeepsRightStates := by
  -- Nothing was noted before the event, so the notes of its edits cover all that has changed.
  have nothingNoted : Buffer.NotesChanges before.buffer.lineTexts before.buffer := by
    unfold Buffer.NotesChanges
    rw [highlighted.settled]
  have covers := changes.notesChanges nothingNoted
  intro dirty noted
  unfold Buffer.NotesChanges at covers
  rw [noted] at covers
  have wasRight :
      worked.highlight.states =
        HighlightCache.statesOf worked.grammar none before.buffer.lineTexts := by
    rw [sameHighlight, sameGrammar, highlighted.rebuilt]
    rfl
  exact .of_right (HighlightCache.update_states covers wasRight) _

/-- A press changes neither grammar nor highlighting before it is ended, nor what is known. -/
theorem route_looks
    (editor : Editor)
    (event : KeyEvent) :
    (editor.route event).2.grammar = editor.grammar ∧
      (editor.route event).2.highlight = editor.highlight ∧
        (editor.route event).2.grammars = editor.grammars := by
  rcases route_cases editor event with
    ⟨action, context, idle, _, _, alike, outcome⟩ | ⟨_, steps, _⟩ | ⟨_, leaves⟩
  · have looks := runAction_looks idle action context
    rw [outcome]
    exact ⟨looks.1.trans alike.grammar, looks.2.1.trans alike.highlight,
      looks.2.2.trans alike.grammars⟩
  · exact ⟨steps.grammar, steps.highlight, steps.grammars⟩
  · exact ⟨leaves.grammar, leaves.highlight, leaves.grammars⟩

end Editor

namespace Operation

open Editor

variable {operation : Operation} {editor worked : Editor}

/-- An event changes neither grammar nor highlighting before it is ended, nor what is known. -/
theorem worked_looks
    (isWorked : operation.worked? editor = some worked) :
    worked.grammar = editor.grammar ∧
      worked.highlight = editor.highlight ∧ worked.grammars = editor.grammars := by
  cases operation with
  | handleKey event =>
      cases isWorked
      exact editor.fresh.route_looks event
  | execute action context =>
      cases isWorked
      exact editor.fresh.runAction_looks action context
  | submitCommandLine input =>
      cases isWorked
      have steps := (editor.fresh.closeCommandLine.runCommandLine_stepsTo input).1
      exact ⟨steps.grammar, steps.highlight, steps.grammars⟩
  | loadSource source text | setGrammar name =>
      cases isWorked

/-- An operation leaves a session highlighted exactly if the states that it keeps are right. -/
theorem run_highlighted_iff
    (inOrder : editor.InOrder)
    (operation : Operation) :
    (operation.run editor).Highlighted ↔ operation.KeepsRightStates editor := by
  unfold KeepsRightStates
  cases isWorked : operation.worked? editor with
  | some worked =>
      have looks := worked_looks isWorked
      have changes := (worked_changesSoundly isWorked inOrder.sound).2
      obtain ⟨handled, outcome⟩ := run_of_worked isWorked
      rw [outcome, inOrder.toHighlighted.finishEvent_iff looks.1 looks.2.1 changes]
      simp
  | none =>
      have swapped : (operation.run editor).Highlighted := by
        cases operation with
        | handleKey event | execute action context | submitCommandLine input =>
            cases isWorked
        | loadSource source text =>
            exact loadSource_highlighted editor source text
        | setGrammar name =>
            rw [run_setGrammar]
            split
            · exact ⟨rfl, inOrder.settled⟩
            · exact inOrder.toHighlighted
      simp [swapped]

/-- An operation that keeps only right states leaves a session in order. -/
theorem run_inOrder
    (inOrder : editor.InOrder)
    (keepsRight : operation.KeepsRightStates editor) :
    (operation.run editor).InOrder :=
  { (run_highlighted_iff inOrder operation).mpr keepsRight with
    sound := (run_sound inOrder.sound operation).2 }

/-- An operation keeps right states if every edit adds as many lines as it is noted with. -/
theorem keepsRightStates_of_noted
    (highlighted : editor.Highlighted)
    (notedRightly : operation.EditsBy Buffer.IsNotedRightly editor) :
    operation.KeepsRightStates editor := by
  intro worked isWorked
  have looks := worked_looks isWorked
  exact highlighted.keepsRightStates looks.1 looks.2.1 (notedRightly worked isWorked)

/-- No touched lines are noted when an operation has ended. -/
theorem run_settled
    (settled : editor.buffer.dirty = none)
    (operation : Operation) :
    (operation.run editor).buffer.dirty = none := by
  cases isWorked : operation.worked? editor with
  | some worked =>
      obtain ⟨handled, outcome⟩ := run_of_worked isWorked
      rw [outcome, finishEvent_buffer]
  | none =>
      rcases run_of_not_worked isWorked with ⟨source, text, _, loaded⟩ | same
      · rw [loaded]
        rfl
      · rw [same]
        exact settled

end Operation

namespace Editor

/--
After every operation of a run each line is highlighted, and carries on into the next
one, as in a session started with the present text and the same grammar, exactly if the
states that every event keeps are right; and so it is if every edit of the run adds as
many lines as it is noted with.
-/
theorem highlights_as_started_iff_kept_right
    {config : Config}
    {grammars : GrammarRegistry}
    {text : List Char}
    {started : Editor}
    (isStarted : start config grammars text = .ok started)
    (operations : List Operation) :
    (started.Throughout HighlightsAsStarted operations ↔
        started.EachMeets Operation.KeepsRightStates operations) ∧
      (started.EachMeets (Operation.EditsBy Buffer.IsNotedRightly) operations →
        started.Throughout HighlightsAsStarted operations) := by
  have inOrder := start_inOrder isStarted
  constructor
  · apply @throughout_iff_eachMeets InOrder
    · intro between inOrder
      exact inOrder.toHighlighted.asStarted
    · intro between operation inOrder keepsRight
      exact Operation.run_inOrder inOrder keepsRight
    · intro between operation inOrder showsRight
      have settled := Operation.run_settled inOrder.settled operation
      exact (Operation.run_highlighted_iff inOrder operation).mp ⟨showsRight.1, settled⟩
    · exact inOrder
  · intro notedRightly
    have throughout : started.Throughout InOrder operations :=
      throughout_of_eachMeets
        (fun between operation inOrder noted =>
          Operation.run_inOrder inOrder
            (Operation.keepsRightStates_of_noted inOrder.toHighlighted noted))
        inOrder notedRightly
    exact throughout.imp fun _ inOrder => inOrder.toHighlighted.asStarted

/--
A line broken in front of an open comment, in an insert session, is noted rightly.  Text
put in place of the LFs of CR LFs is not, and a comment that it opens is missed.
-/
theorem breaking_a_line_highlights_as_started :
    ((demo ['(', '*', '\n', 'x']).EachMeets (Operation.EditsBy Buffer.IsNotedRightly)
        [.handleKey insertPress, .handleKey { key := .enter }] ∧
      (demo ['(', '*', '\n', 'x']).Throughout HighlightsAsStarted
        [.handleKey insertPress, .handleKey { key := .enter }]) ∧
      ¬(demo ['a', '\r', '\n', 'b', '\r', '\n', '*']).Throughout HighlightsAsStarted
        [.submitCommandLine ['%', 's', '/', '\n', '/', '(', '/', 'g']] := by
  constructor
  · have entered :
        Operation.EditsBy Buffer.IsNotedRightly (.handleKey insertPress)
          (demo ['(', '*', '\n', 'x']) := by
      intro worked isWorked
      cases isWorked
      exact Buffer.ChangesBy.nothing.of_same (by decide +kernel) (by decide +kernel)
        (by decide +kernel)
    have shifts : (Edit.insert 0 ['\n']).ShiftsLines ['(', '*', '\n', 'x'] :=
      Edit.shiftsLines_of_no_return (Nat.zero_le _) (by decide) (by decide)
    have broken :
        Operation.EditsBy Buffer.IsNotedRightly (.handleKey { key := .enter })
          ((demo ['(', '*', '\n', 'x']).handleKey insertPress).2 := by
      intro worked isWorked
      cases isWorked
      exact
        (Buffer.ChangesBy.nothing.edit (.insert 0 ['\n']) ⟨Nat.zero_le _, shifts⟩).of_same
          (by decide +kernel) (by decide +kernel) (by decide +kernel)
    have notedRightly :
        (demo ['(', '*', '\n', 'x']).EachMeets (Operation.EditsBy Buffer.IsNotedRightly)
          [.handleKey insertPress, .handleKey { key := .enter }] :=
      ⟨entered, broken, trivial⟩
    exact
      ⟨notedRightly, (highlights_as_started_iff_kept_right (start_demo _) _).2 notedRightly⟩
  · intro throughout
    have keepsRight :=
      ((highlights_as_started_iff_kept_right (start_demo _) _).1.mp throughout).1
    let editor := demo ['a', '\r', '\n', 'b', '\r', '\n', '*']
    let input := ['%', 's', '/', '\n', '/', '(', '/', 'g']
    let worked := editor.fresh.closeCommandLine.runCommandLine input
    have isWorked : (Operation.submitCommandLine input).worked? editor = some worked := rfl
    obtain ⟨sameGrammar, sameHighlight, -⟩ := Operation.worked_looks isWorked
    have outside : ∀ text ∈ [['a'], ['b'], ['*'], ['(', 'b']],
        Highlight.carryAfter editor.grammar text none = none := by
      intro text isLine
      refine HighlightCache.carryAfter_of_outside ?_
      revert text
      decide +kernel
    have opens : Highlight.carryAfter editor.grammar ['(', '*'] none = some 1 :=
      HighlightCache.carryAfter_of_unclosed rfl
    have wereOutside : worked.highlight = ⟨[none, none, none]⟩ := by
      rw [sameHighlight]
      show HighlightCache.mk
        (HighlightCache.statesOf editor.grammar none [['a'], ['b'], ['*']]) = _
      simp [HighlightCache.statesOf, outside]
    have lines : worked.buffer.lineTexts = [['a'], ['(', 'b'], ['(', '*']] := by
      decide +kernel
    have lineCount : worked.buffer.lineCount = 3 := by
      decide +kernel
    have noted : worked.buffer.dirty = some ⟨0, 1⟩ := by
      decide +kernel
    have passedOver := (keepsRight worked isWorked _ noted).behind
    rw [wereOutside, sameGrammar] at passedOver
    simp [HighlightCache.update, HighlightCache.isEmpty, HighlightCache.realign,
      HighlightCache.stateBefore, HighlightCache.settle, HighlightCache.statesOf, lineCount,
      lines, outside, opens] at passedOver

end Editor

namespace Operation

/-- An operation that brings no CR into the text. -/
def BringsNoReturn (operation : Operation) (editor : Editor) : Prop :=
  operation.EditsBy Buffer.BringsNoReturn editor ∧
    ∀ source text, operation = .loadSource source text → '\r' ∉ text

/-- Edits that bring no CR into a text without CR are noted rightly. -/
theorem BringsNoReturn.noted
    {operation : Operation}
    {editor : Editor}
    (bringsNone : operation.BringsNoReturn editor)
    (noReturn : '\r' ∉ editor.buffer.text) :
    operation.EditsBy Buffer.IsNotedRightly editor ∧
      '\r' ∉ (operation.run editor).buffer.text := by
  obtain ⟨edits, loads⟩ := bringsNone
  constructor
  · intro worked isWorked
    exact ((edits worked isWorked).noted_of_no_return noReturn).1
  · cases isWorked : operation.worked? editor with
    | some worked =>
        obtain ⟨handled, outcome⟩ := run_of_worked isWorked
        rw [outcome, Editor.finishEvent_buffer]
        exact ((edits worked isWorked).noted_of_no_return noReturn).2
    | none =>
        rcases run_of_not_worked isWorked with ⟨source, text, isLoad, loaded⟩ | same
        · rw [loaded]
          exact loads source text isLoad
        · rw [same]
          exact noReturn

end Operation

namespace Editor

/-- In a session into which no CR comes, lines are highlighted as in one that is started. -/
theorem highlights_as_started_without_returns
    {config : Config}
    {grammars : GrammarRegistry}
    {text : List Char}
    {started : Editor}
    (isStarted : start config grammars text = .ok started)
    (noReturn : '\r' ∉ text)
    {operations : List Operation}
    (bringsNone : started.EachMeets Operation.BringsNoReturn operations) :
    started.Throughout HighlightsAsStarted operations := by
  have inOrder := start_inOrder isStarted
  have noReturnAtStart : '\r' ∉ started.buffer.text := by
    obtain ⟨empty, rfl⟩ := started_eq isStarted
    exact noReturn
  have preserved
      (between : Editor)
      (operation : Operation)
      (invariant : between.InOrder ∧ '\r' ∉ between.buffer.text)
      (bringsNone : operation.BringsNoReturn between) :
      (operation.run between).InOrder ∧ '\r' ∉ (operation.run between).buffer.text := by
    obtain ⟨noted, noReturnAfter⟩ := bringsNone.noted invariant.2
    have keepsRight :=
      Operation.keepsRightStates_of_noted invariant.1.toHighlighted noted
    exact ⟨Operation.run_inOrder invariant.1 keepsRight, noReturnAfter⟩
  have throughout :=
    throughout_of_eachMeets preserved ⟨inOrder, noReturnAtStart⟩ bringsNone
  exact throughout.imp fun _ invariant => invariant.1.toHighlighted.asStarted

end Editor

end ChordEditor
