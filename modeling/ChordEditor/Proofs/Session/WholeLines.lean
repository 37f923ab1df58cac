import ChordEditor.Proofs.Buffer.ListedBlocks
import ChordEditor.Proofs.Commands.Joining
import ChordEditor.Proofs.Motion.Counts
import ChordEditor.Proofs.Session.DeleteThenPaste

namespace ChordEditor

/-!
# Whole lines in a session

Where LF alone ends lines, what is done to whole lines is done to the list of lines: a
deletion takes a block out, a paste puts lines in front of a line or behind it, and a join
makes one line of some that follow each other.

Which lines are deleted is said by the line of the cursor and the count, the line asked for,
or the line where the selection began (`Editor.linesAsked?`).
-/

/-- Whole lines in the register, with a LF behind each. -/
structure Register.HoldsLines (register : Register) (stored : List (List Char)) : Prop where
  linewise : register.linewise = true
  text : register.text = Text.ended stored
  someLine : stored ≠ []
  noBreak : ∀ line ∈ stored, Text.HasNoBreak line

namespace Commands

open CommandM

variable
  {editor : Editor}
  {own pasted : List (List Char)}

/-- The number that the first of some lines has when they are pasted. -/
def pastedPlace (editor : Editor) (above : Bool) : Nat :=
  if above then editor.currentLine else editor.currentLine + 1

theorem withoutFinalNewline_ended (someLine : pasted ≠ []) :
    withoutFinalNewline (Text.ended pasted) = List.intercalate ['\n'] pasted := by
  rw [Text.ended_eq_intercalate someLine, withoutFinalNewline]
  simp

theorem currentLine_lt
    (hasLines : editor.buffer.HasLines own) :
    editor.currentLine < own.length := by
  obtain ⟨earlier, line, later, rfl, isNumber⟩ := hasLines.exists_line editor.position
  rw [Editor.currentLine, ← isNumber, List.length_append, List.length_cons]
  omega

/-- Lines are pasted in front of the line of the cursor, or behind it. -/
theorem pasteLines_runOn
    (hasLines : editor.buffer.HasLines own)
    (someLine : pasted ≠ [])
    (noBreak : ∀ line ∈ pasted, Text.HasNoBreak line)
    (above : Bool) :
    ∃ changed,
      (pasteLines above (Text.ended pasted)).runOn editor =
          (.ok (pastedPlace editor above), { editor with buffer := changed }) ∧
        changed.HasLines
          (own.take (pastedPlace editor above) ++ pasted ++
            own.drop (pastedPlace editor above)) := by
  have isLine := currentLine_lt hasLines
  have counted : editor.buffer.lastLine = own.length - 1 := by
    rw [Buffer.lastLine, hasLines.lineCount_eq]
  have inFront
      {number : Nat}
      (isNumber : number < own.length) :
      ∃ changed,
        (CommandM.insert (editor.buffer.lineStart number) (Text.ended pasted)).runOn editor =
            (.ok (), { editor with buffer := changed }) ∧
          changed.HasLines (own.take number ++ pasted ++ own.drop number) := by
    obtain ⟨changed, inserted, changedHas⟩ := hasLines.exists_inserted_lines noBreak isNumber
    refine ⟨changed, ?_, changedHas⟩
    rw [CommandM.insert, runOn_edit, inserted]
    rfl
  unfold pasteLines
  rw [runOn_get_bind]
  dsimp only
  cases above with
  | true =>
      obtain ⟨changed, ended, changedHas⟩ := inFront isLine
      refine ⟨changed, ?_, changedHas⟩
      rw [if_pos rfl, runOn_bind_of_ok ended]
      rfl
  | false =>
      rw [if_neg Bool.false_ne_true]
      by_cases followed : editor.currentLine < editor.buffer.lastLine
      · obtain ⟨changed, ended, changedHas⟩ :=
          @inFront (editor.currentLine + 1) (by omega)
        refine ⟨changed, ?_, changedHas⟩
        rw [if_pos followed, runOn_bind_of_ok ended]
        rfl
      · obtain ⟨changed, inserted, changedHas⟩ :=
          hasLines.exists_appended_lines noBreak someLine
        have allBefore : own.length ≤ pastedPlace editor false := by
          show own.length ≤ editor.currentLine + 1
          omega
        refine ⟨changed, ?_, ?_⟩
        · rw [if_neg followed, withoutFinalNewline_ended someLine, CommandM.insert,
            runOn_bind, runOn_edit, inserted]
          rfl
        · rwa [List.take_of_length_le allBefore, List.drop_of_length_le allBefore,
            List.append_nil]

/-- Pasting what the register holds as whole lines puts them in, as often as it is asked. -/
theorem paste_lines_runOn
    {stored : List (List Char)}
    {context : CommandContext}
    (hasLines : editor.buffer.HasLines own)
    (holds : editor.register.HoldsLines stored)
    (someTurn : 0 < context.count)
    (above : Bool) :
    ∃ left,
      (paste above context).runOn editor = (.ok (), left) ∧
        left.buffer.HasLines
            (own.take (pastedPlace editor above) ++
                (List.replicate context.count stored).flatten ++
              own.drop (pastedPlace editor above)) ∧
          left.currentLine = pastedPlace editor above := by
  have someText : editor.register.text ≠ [] := by
    rw [holds.text, Text.ended_eq_intercalate holds.someLine]
    exact List.append_ne_nil_of_right_ne_nil _ (List.cons_ne_nil _ _)
  obtain ⟨turns, isCount⟩ := Nat.exists_eq_add_one.mpr someTurn
  have someLine : (List.replicate context.count stored).flatten ≠ [] := by
    rw [isCount, List.replicate_succ, List.flatten_cons]
    exact List.append_ne_nil_of_left_ne_nil holds.someLine _
  have noBreak :
      ∀ line ∈ (List.replicate context.count stored).flatten, Text.HasNoBreak line := by
    intro line isIn
    obtain ⟨copy, isCopy, inCopy⟩ := List.mem_flatten.mp isIn
    rw [List.eq_of_mem_replicate isCopy] at inCopy
    exact holds.noBreak line inCopy
  obtain ⟨changed, ended, changedHas⟩ := pasteLines_runOn hasLines someLine noBreak above
  let pastedIn : Editor := { editor with buffer := changed }
  let left := pastedIn.setCursor (changed.firstNonBlank (pastedPlace editor above))
  refine ⟨left, ?_, changedHas, ?_⟩
  · rw [paste_runOn someText, if_pos holds.linewise, repeatText, holds.text,
      ← Text.ended_flatten_replicate, runOn_bind_of_ok ended]
    rfl
  · have isLine := currentLine_lt hasLines
    have isPlace : pastedPlace editor above ≤ own.length := by
      unfold pastedPlace
      split <;> omega
    show changed.lineOf (changed.clamp (changed.firstNonBlank _)) = _
    rw [changed.lineOf_clamp]
    apply changedHas.lineOf_firstNonBlank
    have someLength := List.length_pos_iff.mpr someLine
    simp only [List.length_append, List.length_take]
    omega

end Commands

namespace Editor

variable
  {editor : Editor}
  {own : List (List Char)}
  {operation : Operation}
  {action : Action}
  {context : CommandContext}

/-- The cursor is seen on the line where the command leaves it. -/
theorem Shows.currentLine
    {left shown : Editor}
    (seen : left.Shows shown) :
    shown.currentLine = left.currentLine := by
  have sameLine (place : Nat) : shown.buffer.lineOf place = left.buffer.lineOf place := by
    unfold Buffer.lineOf Buffer.clamp
    rw [seen.text]
  unfold Editor.currentLine
  rw [sameLine, seen.position, left.buffer.lineOf_clamp]

/-- An action that deletes lines takes them out of the list of lines, and stores them. -/
theorem run_deletes_lines
    {lines : LineRange}
    (hasLines : editor.buffer.HasLines own)
    (runs : operation.actionOn? editor = some (action, context))
    (deletes : editor.linesDeleted? action context = some lines) :
    let block := (own.take (lines.last + 1)).drop lines.first
    let others := own.take lines.first ++ own.drop (lines.last + 1)
    (operation.run editor).buffer.HasLines (if others = [] then [[]] else others) ∧
      (operation.run editor).register = ⟨Text.ended block, true⟩ := by
  intro block others
  obtain ⟨ordered, isLine⟩ := Commands.linesDeleted_bounds deletes
  have counted := hasLines.lineCount_eq
  have someLine := List.length_pos_iff.mpr hasLines.someLine
  have isLast : lines.last + 1 ≤ own.length := by
    unfold Buffer.lastLine at isLine
    omega
  have parts :
      editor.buffer.HasLines (own.take lines.first ++ (block ++ own.drop (lines.last + 1))) := by
    have front : own.take lines.first = (own.take (lines.last + 1)).take lines.first := by
      rw [List.take_take, Nat.min_eq_left (by omega)]
    rwa [front, ← List.append_assoc, List.take_append_drop, List.take_append_drop]
  have starts : (own.take lines.first).length = lines.first := by
    rw [List.length_take]
    omega
  have width : block.length = lines.last + 1 - lines.first := by
    rw [List.length_drop, List.length_take, Nat.min_eq_left isLast]
  have someBlock : block ≠ [] := by
    rw [← List.length_pos_iff, width]
    omega
  have stops : lines.first + block.length - 1 = lines.last := by
    omega
  have taken := run_takes_lines runs deletes
  have stored := parts.linesText_eq someBlock
  rw [starts, stops] at stored
  rw [taken.register, stored]
  refine ⟨parts.without_block someBlock ?_, rfl⟩
  rw [starts, stops]
  exact taken.text

/-- Pasting stored lines puts them into the list of lines. -/
theorem run_pastes_lines
    {above : Bool}
    {stored : List (List Char)}
    (hasLines : editor.buffer.HasLines own)
    (runs : operation.actionOn? editor = some (.paste above, context))
    (someTurn : 0 < context.count)
    (holds : editor.register.HoldsLines stored) :
    let place := Commands.pastedPlace editor above
    (operation.run editor).buffer.HasLines
        (own.take place ++ (List.replicate context.count stored).flatten ++ own.drop place) ∧
      (operation.run editor).currentLine = place := by
  intro place
  have accepted (dispatcher : Dispatcher) :
      ∃ left,
        (Commands.runAction (.paste above) context).runOn
            (editor.asked dispatcher (.paste above)) = (.ok (), left) ∧
          left.buffer.HasLines
              (own.take place ++ (List.replicate context.count stored).flatten ++
                own.drop place) ∧
            left.currentLine = place := by
    have askedHas : (editor.asked dispatcher (.paste above)).buffer.HasLines own :=
      hasLines.of_text_eq rfl
    exact Commands.paste_lines_runOn askedHas holds someTurn above
  obtain ⟨left, ⟨leftHas, onLine⟩, seen⟩ := run_of_accepted runs accepted
  exact ⟨leftHas.of_text_eq seen.text, seen.currentLine.trans onLine⟩

section Asked

/--
The lines that an action is asked to delete: as many as the count says from the line of the
cursor on, those between it and the line that a motion leads to, or those of the selection.
-/
def linesAsked?
    (editor : Editor)
    (action : Action)
    (context : CommandContext) : Option LineRange :=
  let line := editor.currentLine
  let last := editor.buffer.lastLine
  match action with
  | .deleteLines => some ⟨line, min (line + max context.count 1 - 1) last⟩
  | .delete motion =>
      let args := context.motionArgs editor.settings.jumpLines
      (motion.lineLedTo? line last args).map fun other => ⟨min line other, max line other⟩
  | .deleteSelection =>
      let other := editor.buffer.lineOf editor.window.cursor.anchor
      if editor.mode = .visualLine then some ⟨min other line, max other line⟩ else none
  | _ => none

/-- Where LF alone ends lines, an action deletes the lines that it is asked to delete. -/
theorem linesDeleted?_eq_linesAsked?
    (onlyNewlines : Text.BrokenByNewlines editor.buffer.text)
    (action : Action)
    (context : CommandContext) :
    editor.linesDeleted? action context = editor.linesAsked? action context := by
  cases action with
  | delete motion =>
      let args := Commands.motionArgs editor context
      have linewise : motion.isLinewise = _ :=
        Motion.isLinewise_eq_isSome editor.currentLine editor.buffer.lastLine args
      show (if motion.isLinewise then some (motion.linesCovered _ _ args) else none) =
        (motion.lineLedTo? editor.currentLine editor.buffer.lastLine args).map _
      cases leads : motion.lineLedTo? editor.currentLine editor.buffer.lastLine args with
      | none =>
          rw [linewise, leads]
          rfl
      | some other =>
          rw [linewise, leads, Motion.linesCovered_of_leads onlyNewlines leads]
          rfl
  | deleteSelection =>
      unfold linesDeleted? linesAsked? selection Cursor.start Cursor.stop
      dsimp only
      by_cases selectsLines : editor.mode = .visualLine
      · rw [if_pos selectsLines, if_pos selectsLines, Buffer.lineOf_min, Buffer.lineOf_max]
        rfl
      · rw [if_neg selectsLines, if_neg selectsLines]
        cases editor.window.cursor.hasSelection <;> rfl
  | _ =>
      rfl

/-- A deletion of lines comes to too large a number only if it counts them. -/
theorem actionOverflows_of_linesAsked
    {lines : LineRange}
    (asks : editor.linesAsked? action context = some lines) :
    Commands.actionOverflows editor context action = true ↔
      action = .deleteLines ∧ Text.maxWord64 < editor.currentLine + max context.count 1 := by
  cases action with
  | deleteLines =>
      unfold Commands.actionOverflows Buffer.blockOverflows
      rw [decide_eq_true_iff]
      exact (and_iff_right rfl).symm
  | delete motion =>
      let args := Commands.motionArgs editor context
      obtain ⟨other, leads, -⟩ := Option.map_eq_some_iff.mp asks
      have linewise : motion.isLinewise = true := by
        rw [Motion.isLinewise_eq_isSome editor.currentLine editor.buffer.lastLine args]
        exact Option.isSome_of_eq_some leads
      show motion.overflows editor.buffer editor.position args = true ↔ _
      rw [Motion.not_overflows_of_isLinewise linewise]
      simp
  | deleteSelection =>
      simp [Commands.actionOverflows]
  | _ =>
      contradiction

/-- Pasting lines comes to too large a number only if the text to insert is too long. -/
theorem pasteOverflows_of_holdsLines
    {stored : List (List Char)}
    (holds : editor.register.HoldsLines stored) :
    Commands.pasteOverflows editor context = true ↔
      Text.maxBytes < Text.byteLength editor.register.text * context.count := by
  have someText : editor.register.isEmpty = false := by
    rw [Register.isEmpty, List.isEmpty_eq_false_iff, holds.text,
      Text.ended_eq_intercalate holds.someLine]
    exact List.append_ne_nil_of_right_ne_nil _ (List.cons_ne_nil _ _)
  unfold Commands.pasteOverflows
  simp only [someText, holds.linewise, Bool.not_true, Bool.not_false, Bool.true_and,
    Bool.false_and, Bool.or_false, decide_eq_true_iff]

end Asked

/--
Where LF alone ends lines, deleting whole lines takes those that are asked for out of the
list of lines, which leaves one line with nothing in it where all are taken, and stores
them with a LF behind each.  Pasting stored lines puts them, as often as the count says, in
front of the line of the cursor or behind it, and the cursor goes to the first of them.
The program stops exactly if a number of lines to delete makes no machine word with the
line of the cursor, and if what is to be pasted takes more bytes than a text may have.
-/
theorem lines_deleted_and_pasted
    (onlyNewlines : Text.BrokenByNewlines editor.buffer.text)
    (runs : operation.actionOn? editor = some (action, context)) :
    let own := editor.buffer.lineTexts
    let line := editor.currentLine
    let after? := operation.run? editor
    (∀ lines,
        editor.linesAsked? action context = some lines →
          let block := (own.take (lines.last + 1)).drop lines.first
          let others := own.take lines.first ++ own.drop (lines.last + 1)
          (after? = none ↔
              action = .deleteLines ∧ Text.maxWord64 < line + max context.count 1) ∧
            ∀ after,
              after? = some after →
                after.buffer.HasLines (if others = [] then [[]] else others) ∧
                  after.register = ⟨block.flatMap (· ++ ['\n']), true⟩) ∧
      ∀ above stored,
        action = .paste above →
          0 < context.count →
            editor.register.HoldsLines stored →
              let place := if above then line else line + 1
              let pasted := (List.replicate context.count stored).flatten
              (after? = none ↔
                  Text.maxBytes < Text.byteLength editor.register.text * context.count) ∧
                ∀ after,
                  after? = some after →
                    after.buffer.HasLines (own.take place ++ pasted ++ own.drop place) ∧
                      after.currentLine = place := by
  intro own line after?
  have hasLines := Buffer.hasLines_lineTexts onlyNewlines
  have stops : after? = none ↔ Commands.actionOverflows editor context action = true := by
    show operation.run? editor = none ↔ _
    rw [Operation.run?_of_action runs]
    split <;> simp_all
  have goesOn {after : Editor} (ends : after? = some after) : operation.run editor = after := by
    have runsOn : operation.run? editor = some after := ends
    rw [Operation.run?_of_action runs] at runsOn
    split at runsOn
    · contradiction
    · exact Option.some.inj runsOn
  constructor
  · intro lines asks block others
    refine ⟨stops.trans (actionOverflows_of_linesAsked asks), ?_⟩
    intro after ends
    rw [← linesDeleted?_eq_linesAsked? onlyNewlines] at asks
    rw [← goesOn ends]
    exact run_deletes_lines hasLines runs asks
  · rintro above stored rfl someTurn holds place pasted
    refine ⟨stops.trans (pasteOverflows_of_holdsLines holds), ?_⟩
    intro after ends
    rw [← goesOn ends]
    exact run_pastes_lines hasLines runs someTurn holds

/--
Of five lines with the cursor on the third one, two are deleted by their number, the next
one with it, all from the first, those up to the last, those up to the second, and two that
are selected; with the largest machine word as their number the program stops.  What was
deleted is pasted twice above the last line.
-/
theorem lines_deleted_towards_and_pasted_twice :
    let start := (demo "a\nb\nc\nd\ne".toList).afterAll [.execute (.move .down) { count := 2 }]
    let selected := start.afterAll [.execute (.visual .visualLine) {}, .execute (.move .up) {}]
    let deletes (editor : Editor) (action : Action) (context : CommandContext)
        (stored left : List String) : Prop :=
      ∃ after,
        (Operation.execute action context).run? editor = some after ∧
          after.buffer.HasLines (left.map String.toList) ∧
            after.register = ⟨Text.ended (stored.map String.toList), true⟩
    let two : CommandContext := { count := 2 }
    (deletes start .deleteLines two ["c", "d"] ["a", "b", "e"] ∧
        deletes start (.delete .down) {} ["c", "d"] ["a", "b", "e"] ∧
          deletes start (.delete .up) { count := 9 } ["a", "b", "c"] ["d", "e"] ∧
            deletes start (.delete .documentEnd) {} ["c", "d", "e"] ["a", "b"] ∧
              deletes start (.delete .documentStart) { two with explicitCount := true }
                  ["b", "c"] ["a", "d", "e"] ∧
                deletes selected .deleteSelection {} ["b", "c"] ["a", "d", "e"]) ∧
      (Operation.execute .deleteLines { count := Text.maxWord64 }).run? start = none ∧
        ∃ deleted pasted,
          (Operation.execute .deleteLines two).run? start = some deleted ∧
            (Operation.execute (.paste true) two).run? deleted = some pasted ∧
              pasted.buffer.HasLines
                (["a", "b", "c", "d", "c", "d", "e"].map String.toList) := by
  intro start selected deletes two
  have onlyNewlines : Text.BrokenByNewlines start.buffer.text := by
    decide +kernel
  let texts := ["a", "b", "c", "d", "e"].map String.toList
  have lineTexts : start.buffer.lineTexts = texts := by
    decide +kernel
  have takesLines
      {editor : Editor}
      {action : Action}
      {context : CommandContext}
      {stored left : List String}
      (lines : LineRange)
      (sameText : editor.buffer.text = start.buffer.text)
      (asks : editor.linesAsked? action context = some lines)
      (goesOn :
        ¬ (action = .deleteLines ∧
          Text.maxWord64 < editor.currentLine + max context.count 1))
      (isBlock : (texts.take (lines.last + 1)).drop lines.first = stored.map String.toList)
      (isLeft : texts.take lines.first ++ texts.drop (lines.last + 1) = left.map String.toList)
      (someLeft : left.map String.toList ≠ []) :
      deletes editor action context stored left := by
    have own : editor.buffer.lineTexts = texts := by
      rw [← lineTexts, Buffer.lineTexts, sameText, ← Buffer.lineTexts]
    have deletion :=
      (lines_deleted_and_pasted (sameText ▸ onlyNewlines)
        (Operation.actionOn?_execute action context editor)).1 lines asks
    rw [own, isBlock, isLeft] at deletion
    dsimp only at deletion
    rw [if_neg someLeft] at deletion
    obtain ⟨after, ends⟩ := Option.ne_none_iff_exists'.mp (mt deletion.1.mp goesOn)
    exact ⟨after, ends, deletion.2 after ends⟩
  have sameText : selected.buffer.text = start.buffer.text := by
    decide +kernel
  have byNumber : deletes start .deleteLines two ["c", "d"] ["a", "b", "e"] :=
    takesLines ⟨2, 3⟩ rfl (by decide +kernel) (by decide +kernel) rfl rfl (by decide)
  refine ⟨⟨byNumber, ?_, ?_, ?_, ?_, ?_⟩, ?_, ?_⟩
  · exact takesLines ⟨2, 3⟩ rfl (by decide +kernel) (by simp) rfl rfl (by decide)
  · exact takesLines ⟨0, 2⟩ rfl (by decide +kernel) (by simp) rfl rfl (by decide)
  · exact takesLines ⟨2, 4⟩ rfl (by decide +kernel) (by simp) rfl rfl (by decide)
  · exact takesLines ⟨1, 2⟩ rfl (by decide +kernel) (by simp) rfl rfl (by decide)
  · exact takesLines ⟨1, 2⟩ sameText (by decide +kernel) (by simp) rfl rfl (by decide)
  · have tooMany :=
      (lines_deleted_and_pasted onlyNewlines
        (Operation.actionOn?_execute .deleteLines { count := Text.maxWord64 } start)).1 ⟨2, 4⟩
        (by decide +kernel)
    exact tooMany.1.mpr ⟨rfl, by decide +kernel⟩
  · obtain ⟨deleted, ends, left, isStored⟩ := byNumber
    have holds : deleted.register.HoldsLines (["c", "d"].map String.toList) := by
      rw [isStored]
      refine ⟨rfl, rfl, by decide, ?_⟩
      intro line isIn
      apply (Buffer.hasLines_lineTexts onlyNewlines).noBreak
      rw [lineTexts]
      exact List.mem_of_mem_drop (i := 2) (List.mem_append_left _ isIn)
    have onThird : deleted.currentLine = 2 := by
      have isRun : some ((Operation.execute .deleteLines two).run start) = some deleted := ends
      rw [← Option.some.inj isRun]
      decide +kernel
    have pastes :=
      (lines_deleted_and_pasted left.onlyNewlines
        (Operation.actionOn?_execute (.paste true) two deleted)).2 true _ rfl (by decide) holds
    rw [left.lineTexts_eq, isStored, if_pos rfl, onThird] at pastes
    obtain ⟨pasted, endsThen⟩ :=
      Option.ne_none_iff_exists'.mp (mt pastes.1.mp (by decide +kernel))
    exact ⟨deleted, pasted, ends, endsThen, (pastes.2 pasted endsThen).1⟩

/-- A join takes the lines behind that of the cursor into it, one after the other. -/
theorem run_joins_lines
    {line : List Char}
    {earlier later : List (List Char)}
    (hasLines : editor.buffer.HasLines (earlier ++ line :: later))
    (onLine : earlier.length = editor.currentLine)
    (runs : operation.actionOn? editor = some (.joinLines, context)) :
    (operation.run editor).buffer.HasLines
      (earlier ++
        (later.take (max context.count 2 - 1)).foldl Text.joined line ::
          later.drop (max context.count 2 - 1)) := by
  have accepted (dispatcher : Dispatcher) :
      ∃ left,
        (Commands.runAction .joinLines context).runOn (editor.asked dispatcher .joinLines) =
            (.ok (), left) ∧
          left.buffer.HasLines
            (earlier ++
              (later.take (max context.count 2 - 1)).foldl Text.joined line ::
                later.drop (max context.count 2 - 1)) := by
    have askedHas :
        (editor.asked dispatcher .joinLines).buffer.HasLines (earlier ++ line :: later) :=
      hasLines.of_text_eq rfl
    exact Commands.joinLines_runOn askedHas onLine context
  obtain ⟨left, leftHas, seen⟩ := run_of_accepted runs accepted
  exact leftHas.of_text_eq seen.text

/--
Where LF alone ends lines, a join makes one line of the line of the cursor and of those
behind it, as many as the count says and at least one, as far as there are any.  It keeps
every character that is not blank, in order, and puts one space between what the lines
hold.  The other lines stay as they are.
-/
theorem following_lines_joined
    (onlyNewlines : Text.BrokenByNewlines editor.buffer.text)
    (runs : operation.actionOn? editor = some (.joinLines, context)) :
    let own := editor.buffer.lineTexts
    let line := editor.currentLine
    let joins := min (max context.count 2 - 1) (editor.buffer.lastLine - line)
    let block := (own.drop line).take (joins + 1)
    let after := operation.run editor
    after.buffer.lineCount + joins = editor.buffer.lineCount ∧
      ∃ joined,
        after.buffer.HasLines (own.take line ++ joined :: own.drop (line + joins + 1)) ∧
          joined.filter (fun c => !Text.isBlank c) =
              block.flatMap (·.filter fun c => !Text.isBlank c) ∧
            Text.trim joined =
              List.intercalate [' '] ((block.map Text.trim).filter (· ≠ [])) := by
  intro own line joins block after
  have hasLines := Buffer.hasLines_lineTexts onlyNewlines
  obtain ⟨earlier, first, later, shape, isNumber⟩ := hasLines.exists_line editor.position
  change earlier.length = line at isNumber
  have parts : editor.buffer.HasLines (earlier ++ first :: later) := by
    rwa [← shape]
  change own = earlier ++ first :: later at shape
  have isJoins : joins = min (max context.count 2 - 1) later.length := by
    show min _ (editor.buffer.lastLine - line) = _
    rw [parts.lastLine_eq, isNumber, Nat.add_sub_cancel_left]
  have joinedHas := run_joins_lines parts isNumber runs
  have taken : later.take (max context.count 2 - 1) = later.take joins := by
    rw [isJoins, ← List.take_eq_take_min]
  have others : later.drop (max context.count 2 - 1) = later.drop joins := by
    rcases Nat.le_total (max context.count 2 - 1) later.length with fits | short
    · rw [isJoins, Nat.min_eq_left fits]
    · rw [isJoins, Nat.min_eq_right short, List.drop_length, List.drop_of_length_le short]
  have front : own.take line = earlier := by
    rw [shape, ← isNumber, List.take_left]
  have isBlock : block = first :: later.take joins := by
    show (own.drop line).take (joins + 1) = _
    rw [shape, ← isNumber, List.drop_left, List.take_succ_cons]
  have behind : own.drop (line + joins + 1) = later.drop joins := by
    rw [shape, ← isNumber, Nat.add_assoc, List.drop_length_add_append, List.drop_succ_cons]
  rw [taken, others] at joinedHas
  refine ⟨?_, (later.take joins).foldl Text.joined first, ?_, ?_, ?_⟩
  · rw [joinedHas.lineCount_eq, parts.lineCount_eq]
    simp only [List.length_append, List.length_cons, List.length_drop]
    omega
  · rw [front, behind]
    exact joinedHas
  · rw [isBlock]
    exact Text.notBlankChars_foldl_joined first (later.take joins)
  · rw [isBlock]
    exact Text.trim_foldl_joined first (later.take joins)

/-- Three lines, one of them blank, are joined, and the fourth one stays. -/
theorem lines_joined_over_blank_line :
    let editor := demo "  ab \n\n\tcd\nef".toList
    let after := (Operation.execute .joinLines { count := 3 }).run editor
    after.buffer.lineCount = 2 ∧
      ∃ joined,
        after.buffer.HasLines [joined, "ef".toList] ∧ Text.trim joined = "ab cd".toList := by
  intro editor after
  have onlyNewlines : Text.BrokenByNewlines editor.buffer.text := by
    decide +kernel
  have own :
      editor.buffer.lineTexts = ["  ab ".toList, [], "\tcd".toList, "ef".toList] := by
    decide +kernel
  have onFirst : editor.currentLine = 0 := by
    decide +kernel
  have lastLine : editor.buffer.lastLine = 3 := by
    decide +kernel
  have lineCount : editor.buffer.lineCount = 4 := by
    decide +kernel
  obtain ⟨fewer, joined, hasLines, -, contents⟩ :=
    following_lines_joined onlyNewlines
      (Operation.actionOn?_execute .joinLines { count := 3 } editor)
  rw [own, onFirst, lastLine] at hasLines contents
  rw [onFirst, lastLine, lineCount] at fewer
  exact ⟨Nat.add_right_cancel fewer, joined, hasLines, contents.trans (by decide +kernel)⟩

end Editor

end ChordEditor
