import ChordEditor.Proofs.Commands.Pasting
import ChordEditor.Proofs.Session.CursorInText
import ChordEditor.Proofs.Session.Steps

namespace ChordEditor.Editor

/-!
# Deleting and pasting in a session

What is deleted and then pasted once comes back.  Characters come back as they were.  A
block of lines comes back above the line that took its place, or below the last line,
but it is stored with a LF behind each line, so that its breaks come back as LF.
-/

variable {editor : Editor}

theorem refresh_register (editor : Editor) :
    editor.refreshHighlight.refreshSearch.register = editor.register := by
  obtain ⟨_, _, _, _, refreshed⟩ := editor.refresh_eq
  rw [refreshed]

theorem finishEvent_register
    (editor : Editor)
    (modeBefore : Mode)
    (handled : Bool) :
    (editor.finishEvent modeBefore handled).2.register = editor.register := by
  unfold finishEvent settle
  dsimp only
  rw [refresh_register]

/-- The editor on which the command of an action runs. -/
def asked (editor : Editor) (dispatcher : Dispatcher) (action : Action) : Editor :=
  { editor.fresh with dispatcher }.beginGroup action.name

/-- What is seen of a command once its event has ended. -/
structure Shows (left shown : Editor) : Prop where
  text : shown.buffer.text = left.buffer.text
  register : shown.register = left.register
  position : shown.position = left.buffer.clamp left.position

theorem runAction_of_accepted
    {action : Action}
    {context : CommandContext}
    {left : Editor}
    (accepted :
      (Commands.runAction action context).runOn (editor.beginGroup action.name) =
        (.ok (), left)) :
    (editor.runAction action context).buffer.text = left.buffer.text ∧
      (editor.runAction action context).register = left.register ∧
        (editor.runAction action context).window = left.window := by
  rw [runAction_of_ended accepted]
  split <;> exact ⟨rfl, rfl, rfl⟩

/-- An action whose command is accepted shows what the command leaves. -/
theorem run_of_accepted
    {operation : Operation}
    {action : Action}
    {context : CommandContext}
    {holds : Editor → Prop}
    (runs : operation.actionOn? editor = some (action, context))
    (accepted :
      ∀ dispatcher,
        ∃ left,
          (Commands.runAction action context).runOn (editor.asked dispatcher action) =
              (.ok (), left) ∧
            holds left) :
    ∃ left, holds left ∧ left.Shows (operation.run editor) := by
  obtain ⟨dispatcher, modeBefore, handled, after⟩ := Operation.run_of_action runs
  obtain ⟨left, ended, held⟩ := accepted dispatcher
  obtain ⟨text, register, window⟩ := runAction_of_accepted ended
  refine ⟨left, held, ?_, ?_, ?_⟩
  · rw [after, finishEvent_buffer]
    exact text
  · rw [after, finishEvent_register]
    exact register
  · rw [after, position, finishEvent_cursor, Buffer.clamp_eq_min, window]
    show min left.position _ = min left.position _
    rw [Buffer.length, text]
    rfl

theorem TakesOut.shown
    {span : Span}
    {register : Register}
    {place : List Char → Nat}
    {left shown : Editor}
    (takesOut : editor.TakesOut span register place left)
    (seen : left.Shows shown) :
    editor.TakesOut span register place shown := by
  refine ⟨seen.text.trans takesOut.text, seen.register.trans takesOut.register, ?_⟩
  have clamped := left.buffer.clamp_le (place left.buffer.text)
  rw [seen.position, takesOut.position, Buffer.clamp_of_le clamped]
  unfold Buffer.clamp
  rw [seen.text]

/-- The line of the cursor is the line of the place where it is put. -/
theorem TakesOut.currentLine
    {span : Span}
    {register : Register}
    {place : List Char → Nat}
    {after : Editor}
    (takesOut : editor.TakesOut span register place after) :
    after.currentLine = after.buffer.lineOf (place after.buffer.text) := by
  have clamped := after.buffer.clamp_le (place after.buffer.text)
  unfold Editor.currentLine Buffer.lineOf
  rw [takesOut.position, Buffer.clamp_of_le clamped]

section Run

variable
  {operation : Operation}
  {action : Action}
  {context : CommandContext}

/-- What the command of an action takes out and stores, its event does. -/
theorem run_takes
    {span : Span}
    {register : Register}
    {place : List Char → Nat}
    (runs : operation.actionOn? editor = some (action, context))
    (takes :
      ∀ dispatcher,
        ∃ left,
          (Commands.runAction action context).runOn (editor.asked dispatcher action) =
              (.ok (), left) ∧
            (editor.asked dispatcher action).TakesOut span register place left) :
    editor.TakesOut span register place (operation.run editor) := by
  have accepted (dispatcher : Dispatcher) :
      ∃ left,
        (Commands.runAction action context).runOn (editor.asked dispatcher action) =
            (.ok (), left) ∧
          editor.TakesOut span register place left := by
    obtain ⟨left, ended, taken⟩ := takes dispatcher
    exact ⟨left, ended, taken.text, taken.register, taken.position⟩
  obtain ⟨left, taken, seen⟩ := run_of_accepted runs accepted
  exact taken.shown seen

/-- Characters that are deleted are stored, and the cursor is where they were. -/
theorem run_takes_chars
    {span : Span}
    (inText : editor.CursorInText)
    (runs : operation.actionOn? editor = some (action, context))
    (deletes : editor.charsDeleted? action context = some span)
    (someChar : span.start < span.stop) :
    editor.TakesOut span ⟨editor.buffer.slice span.start span.stop, false⟩
      (fun _ => span.start) (operation.run editor) := by
  apply run_takes runs
  intro dispatcher
  have askedInText : (editor.asked dispatcher action).CursorInText :=
    ⟨inText.position, inText.anchor⟩
  have askedDeletes :
      (editor.asked dispatcher action).charsDeleted? action context = some span := by
    rw [← deletes]
    cases action <;> rfl
  exact Commands.runAction_takes_chars askedInText askedDeletes someChar

/-- Lines that are deleted are stored, and the cursor is on the line in their place. -/
theorem run_takes_lines
    {lines : LineRange}
    (runs : operation.actionOn? editor = some (action, context))
    (deletes : editor.linesDeleted? action context = some lines) :
    editor.TakesOut (editor.buffer.lineSpan lines.first lines.last)
      ⟨editor.buffer.linesText lines.first lines.last, true⟩ (blockPlace lines)
      (operation.run editor) := by
  apply run_takes runs
  intro dispatcher
  have askedDeletes :
      (editor.asked dispatcher action).linesDeleted? action context = some lines := by
    rw [← deletes]
    cases action <;> rfl
  exact Commands.runAction_takes_lines askedDeletes

variable {above : Bool}

/-- A paste whose command leaves a text shows that text. -/
theorem run_paste
    {text : List Char}
    (runs : operation.actionOn? editor = some (.paste above, context))
    (pastes :
      ∀ dispatcher,
        ∃ left,
          (Commands.paste above context).runOn (editor.asked dispatcher (.paste above)) =
              (.ok (), left) ∧
            left.buffer.text = text) :
    (operation.run editor).buffer.text = text := by
  obtain ⟨left, leaves, seen⟩ := run_of_accepted runs pastes
  exact seen.text.trans leaves

/-- Characters that were taken out and are stored are pasted back. -/
theorem chars_pasted_back
    {deleted : Editor}
    {span : Span}
    (someChar : span.start < span.stop)
    (inText : span.stop ≤ editor.buffer.length)
    (taken :
      editor.TakesOut span ⟨editor.buffer.slice span.start span.stop, false⟩
        (fun _ => span.start) deleted)
    (pastes : operation.actionOn? deleted = some (.paste above, context))
    (once : context.count = 1) :
    (operation.run deleted).buffer.text = editor.buffer.text := by
  have startInText : (editor.buffer.text.take span.start).length = span.start := by
    rw [List.length_take, Nat.min_eq_left]
    exact Nat.le_trans (Nat.le_of_lt someChar) inText
  have place : deleted.position = span.start := by
    rw [taken.position, Buffer.clamp, taken.text, List.take_left' startInText, startInText]
  have someText : deleted.register.text ≠ [] := by
    have width : (editor.buffer.slice span.start span.stop).length = span.stop - span.start := by
      unfold Buffer.length at inText
      rw [Buffer.slice, List.length_drop, List.length_take, Nat.min_eq_left inText]
    rw [taken.register, ← List.length_pos_iff, width]
    omega
  have charwise : deleted.register.linewise = false := by
    rw [taken.register]
  have restored :
      deleted.buffer.text.take deleted.position ++ deleted.register.text ++
          deleted.buffer.text.drop deleted.position =
        editor.buffer.text := by
    rw [place, taken.text, taken.register, List.take_left' startInText,
      List.drop_left' startInText]
    exact editor.buffer.text_around_slice (Nat.le_of_lt someChar)
  have placeInText : deleted.position ≤ deleted.buffer.length := by
    rw [taken.position]
    exact deleted.buffer.clamp_le _
  rw [← restored]
  apply run_paste pastes
  intro dispatcher
  exact
    @Commands.paste_chars (deleted.asked dispatcher (.paste above)) context someText once
      charwise placeInText above

/-- Lines that were taken out and are stored are pasted back with a LF behind each. -/
theorem lines_pasted_back
    {deleted : Editor}
    {lines : LineRange}
    (ordered : lines.first ≤ lines.last)
    (isLine : lines.last ≤ editor.buffer.lastLine)
    (someOther : 0 < lines.first ∨ lines.last < editor.buffer.lastLine)
    (detachable : editor.buffer.Detachable lines)
    (taken :
      editor.TakesOut (editor.buffer.lineSpan lines.first lines.last)
        ⟨editor.buffer.linesText lines.first lines.last, true⟩ (blockPlace lines) deleted)
    (pastes :
      operation.actionOn? deleted =
        some (.paste (decide (lines.last < editor.buffer.lastLine)), context))
    (once : context.count = 1) :
    (operation.run deleted).buffer.text =
      editor.buffer.withNewlinesIn (editor.buffer.lineSpan lines.first lines.last) := by
  have currentLine := taken.currentLine
  have linewise : deleted.register.linewise = true := by
    rw [taken.register]
  have stored : deleted.register.text = editor.buffer.linesText lines.first lines.last := by
    rw [taken.register]
  obtain ⟨kept, ends⟩ := Buffer.linesText_ends_in_newline ordered isLine
  have someText : deleted.register.text ≠ [] := by
    rw [stored, ends]
    simp
  by_cases followed : lines.last < editor.buffer.lastLine
  · rw [decide_eq_true followed] at pastes
    have restored :=
      Buffer.pasted_above ordered followed detachable taken.text currentLine
    rw [← restored, ← stored]
    apply run_paste pastes
    intro dispatcher
    exact
      @Commands.paste_lines_above (deleted.asked dispatcher (.paste true)) context someText
        once linewise
  · rw [decide_eq_false followed] at pastes
    have atEnd : lines.last = editor.buffer.lastLine := by
      omega
    obtain ⟨onLast, restored⟩ :=
      Buffer.pasted_below ordered atEnd (by omega) detachable taken.text
    have withoutLast :
        (editor.buffer.linesText lines.first lines.last).dropLast =
          Commands.withoutFinalNewline deleted.register.text := by
      rw [stored, ends]
      simp [Commands.withoutFinalNewline]
    rw [← restored, withoutLast]
    apply run_paste pastes
    intro dispatcher
    exact
      @Commands.paste_lines_below (deleted.asked dispatcher (.paste false)) context someText
        once linewise (currentLine.trans onLast)

end Run

/--
What a deletion takes out a paste with a count of one puts back: characters as they
were, and lines that are not all of the text with their breaks made LF, so that the text
is as it was exactly if no CR went with them.  Lines are pasted above if a line followed
them, and below if they were the last ones.
-/
theorem paste_puts_back_deleted
    {config : Config}
    {grammars : GrammarRegistry}
    {text : List Char}
    {started : Editor}
    (isStarted : start config grammars text = .ok started)
    (operations : List Operation)
    {deleting pasting : Operation}
    {action : Action}
    {context pasteContext : CommandContext}
    {above : Bool}
    (runs : deleting.actionOn? (started.afterAll operations) = some (action, context))
    (pastes :
      pasting.actionOn? (deleting.run (started.afterAll operations)) =
        some (.paste above, pasteContext))
    (once : pasteContext.count = 1) :
    let before := started.afterAll operations
    let after := pasting.run (deleting.run before)
    (∀ span,
        before.charsDeleted? action context = some span →
          span.start < span.stop → after.buffer.text = before.buffer.text) ∧
      ∀ lines,
        before.linesDeleted? action context = some lines →
          0 < lines.first ∨ lines.last < before.buffer.lastLine →
            above = decide (lines.last < before.buffer.lastLine) →
              before.buffer.Detachable lines →
                let span := before.buffer.lineSpan lines.first lines.last
                after.buffer.text = before.buffer.withNewlinesIn span ∧
                  (after.buffer.text = before.buffer.text ↔
                    '\r' ∉ before.buffer.slice span.start span.stop) := by
  intro before after
  have inText : before.CursorInText := afterAll_cursorInText isStarted operations
  constructor
  · intro span deletes someChar
    have taken := run_takes_chars inText runs deletes someChar
    exact
      chars_pasted_back someChar (Commands.charsDeleted_inText inText deletes) taken pastes once
  · intro lines deletes someOther fromWhere detachable span
    obtain ⟨ordered, isLine⟩ := Commands.linesDeleted_bounds deletes
    have taken := run_takes_lines runs deletes
    rw [fromWhere] at pastes
    have restored : after.buffer.text = before.buffer.withNewlinesIn span :=
      lines_pasted_back ordered isLine someOther detachable taken pastes once
    refine ⟨restored, ?_⟩
    rw [restored]
    exact Buffer.withNewlinesIn_eq_iff (before.buffer.lineSpan_isRange ordered).ordered

/-- The small session with the cursor on the second one of three lines. -/
def demoLines : Editor :=
  (demo "a\nb c\nd".toList).afterAll [.execute (.move .down) {}]

/-- A word is put back at the cursor, and the last two lines below the one that is left. -/
theorem paste_puts_back_word_and_last_lines :
    demoLines.buffer.text = "a\nb c\nd".toList ∧
      ((Operation.execute (.paste true) {}).run
          ((Operation.execute (.delete .wordForward) {}).run demoLines)).buffer.text =
        demoLines.buffer.text ∧
        ((Operation.execute (.paste false) {}).run
            ((Operation.execute .deleteLines { count := 2 }).run demoLines)).buffer.text =
          demoLines.buffer.text := by
  have text : demoLines.buffer.text = "a\nb c\nd".toList := by
    decide +kernel
  have word :
      demoLines.charsDeleted? (.delete .wordForward) {} = some ⟨2, 4⟩ := by
    decide +kernel
  have lastLines :
      demoLines.linesDeleted? .deleteLines { count := 2 } = some ⟨1, 2⟩ := by
    decide +kernel
  have lastLine : demoLines.buffer.lastLine = 2 := by
    decide +kernel
  have span : demoLines.buffer.lineSpan 1 2 = ⟨1, 7⟩ := by
    decide +kernel
  have detachable : demoLines.buffer.Detachable ⟨1, 2⟩ := by
    apply Buffer.detachable_of_returns
    · rw [text]
      rfl
    · rw [span, text]
      rfl
  have noReturn : '\r' ∉ demoLines.buffer.slice 1 7 := by
    decide +kernel
  have started := start_demo "a\nb c\nd".toList
  have charsBack :=
    (@paste_puts_back_deleted _ _ _ _ started [.execute (.move .down) {}]
      (.execute (.delete .wordForward) {}) (.execute (.paste true) {}) _ _ _ _ rfl rfl rfl).1
  have linesBack :=
    (@paste_puts_back_deleted _ _ _ _ started [.execute (.move .down) {}]
      (.execute .deleteLines { count := 2 }) (.execute (.paste false) {}) _ _ _ _ rfl rfl rfl).2
  refine ⟨text, charsBack _ word (by decide), ?_⟩
  have back :=
    linesBack _ lastLines (.inl (by decide)) (by
      show false = decide (2 < demoLines.buffer.lastLine)
      rw [lastLine]
      rfl) detachable
  apply back.2.mpr
  show '\r' ∉ demoLines.buffer.slice (demoLines.buffer.lineSpan 1 2).start
    (demoLines.buffer.lineSpan 1 2).stop
  rw [span]
  exact noReturn

/-- The line of the cursor is deleted and pasted above. -/
def linePastedBack : List Operation :=
  [.execute .deleteLines {}, .execute (.paste true) {}]

/--
A first line that ends in CR LF comes back with a LF.  A break that stays in the line is
followed by a LF, a CR and a LF that have come together stay together, and a blank line
that ends in such a break has the line pasted behind it.
-/
theorem pasted_line_differs :
    ((demo "a\r\nb".toList).linesDeleted? .deleteLines {} = some ⟨0, 0⟩ ∧
        (demo "a\r\nb".toList).buffer.lastLine = 1 ∧
          ((demo "a\r\nb".toList).afterAll linePastedBack).buffer.text = "a\nb".toList) ∧
      ((demo "a\x0bb".toList).afterAll linePastedBack).buffer.text = "a\x0b\nb".toList ∧
        ((demo "a\rb\n\nc".toList).afterAll
            (.execute (.move .down) {} :: linePastedBack)).buffer.text =
          "a\r\nb\nc".toList ∧
          ((demo "a\n \x0bb".toList).afterAll linePastedBack).buffer.text =
            " \x0ba\nb".toList := by
  decide +kernel

end ChordEditor.Editor
