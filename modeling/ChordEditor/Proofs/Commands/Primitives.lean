import Mathlib.Logic.Relation
import ChordEditor.Commands.Insert
import ChordEditor.Commands.Line
import ChordEditor.Commands.Run
import ChordEditor.Proofs.Buffer.Versions
import ChordEditor.Proofs.Commands.Replaying
import ChordEditor.Proofs.Window.InView

namespace ChordEditor

/-!
# What commands are made of

However a command ends, what it has done to the editor is a sequence of primitive
changes: the text is edited, the window is moved, the mode is set, a search is begun or
dropped, or something is noted elsewhere.  The window gets a selection in visual modes
alone.  What every primitive change preserves is thus preserved by every command.
-/

namespace Editor

/-- One primitive change of an editor. -/
inductive Primitive (before : Editor) : Editor → Prop where
  /-- The text or its history changes, and the version with the text. -/
  | edits
      {buffer : Buffer}
      (counts : before.buffer.Counts buffer) :
      Primitive before { before with buffer }
  /-- The window moves; the cursor stays, drops the selection or extends it. -/
  | moves
      {window : Window}
      (sameHeight : window.height = before.window.height)
      (cursor :
        window.cursor = before.window.cursor ∨
          window.cursor.anchor = window.cursor.position ∨
            before.mode.isVisual = true) :
      Primitive before { before with window }
  | setsMode
      (mode : Mode) :
      Primitive before (before.setMode mode)
  | dropsSearch :
      Primitive before { before with search := before.search.clear }
  | searchesFor
      (text : List Char)
      (wholeWord : Bool) :
      Primitive before
        { before with search := before.search.set text wholeWord before.buffer }
  /-- Something is noted outside of text, window, mode, search and sources. -/
  | notes
      {after : Editor}
      (buffer : after.buffer = before.buffer)
      (window : after.window = before.window)
      (mode : after.mode = before.mode)
      (search : after.search = before.search)
      (sources : after.source = before.source ∧ after.cursorMemory = before.cursorMemory) :
      Primitive before after

/-- Some primitive changes, one after the other. -/
def Becomes : Editor → Editor → Prop :=
  Relation.ReflTransGen Primitive

namespace Becomes

theorem refl (editor : Editor) : editor.Becomes editor :=
  Relation.ReflTransGen.refl

theorem trans
    {first second third : Editor}
    (earlier : first.Becomes second)
    (later : second.Becomes third) :
    first.Becomes third :=
  Relation.ReflTransGen.trans earlier later

theorem of_primitive
    {before after : Editor}
    (primitive : before.Primitive after) :
    before.Becomes after :=
  Relation.ReflTransGen.single primitive

/-- What every primitive change preserves is preserved by several. -/
theorem preserves
    {holds : Editor → Prop}
    (preserved : ∀ before after, before.Primitive after → holds before → holds after)
    {before after : Editor}
    (becomes : before.Becomes after)
    (atStart : holds before) :
    holds after := by
  induction becomes with
  | refl =>
      exact atStart
  | tail _ primitive inductionHypothesis =>
      exact preserved _ _ primitive inductionHypothesis

end Becomes

/-- Putting the cursor at a place drops the selection. -/
theorem primitive_setCursor
    (editor : Editor)
    (place : Nat) :
    editor.Primitive (editor.setCursor place) :=
  .moves rfl (.inr (.inl rfl))

/-- Scrolling moves the view, and the cursor without a selection if it pulls it along. -/
theorem primitive_scrollBy
    (editor : Editor)
    (lines : Int) :
    editor.Primitive { editor with window := editor.window.scrollBy editor.buffer lines } := by
  unfold Window.scrollBy
  dsimp only
  split
  · exact .moves rfl (.inl rfl)
  · exact .moves rfl (.inr (.inl rfl))

/-- A motion extends the selection only if it is told to. -/
theorem primitive_moveCursor
    (editor : Editor)
    (motion : Motion)
    (args : MotionArgs)
    {extend : Bool}
    (visual : extend = true → editor.mode.isVisual = true) :
    editor.Primitive
      { editor with
        window := editor.window.moveCursor editor.buffer motion args extend } := by
  apply Primitive.moves
  · exact Window.showCursor_height _ _
  · right
    rw [Window.moveCursor_cursor]
    cases extend with
    | false => exact .inl rfl
    | true => exact .inr (visual rfl)

end Editor

namespace CommandM

/-- Whatever the editor, the command makes primitive changes alone. -/
def Composed (command : CommandM α) : Prop :=
  ∀ editor : Editor, editor.Becomes (command.runOn editor).2

namespace Composed

variable {command : CommandM α} {next : α → CommandM β}

theorem pure (result : α) : (pure result : CommandM α).Composed :=
  fun editor => .refl editor

theorem get : (get : CommandM Editor).Composed :=
  fun editor => .refl editor

/-- A sequence is made of what its parts are made of. -/
theorem bind
    (first : command.Composed)
    (rest : ∀ result, (next result).Composed) :
    (command >>= next).Composed := by
  intro editor
  have begun := first editor
  rw [runOn_bind]
  cases ended : command.runOn editor with
  | mk result after =>
      rw [ended] at begun
      cases result with
      | ok result => exact begun.trans (rest result after)
      | error error => exact begun

theorem get_bind
    {next : Editor → CommandM β}
    (rest : ∀ editor, (next editor).Composed) :
    ((MonadState.get : CommandM Editor) >>= next).Composed :=
  get.bind rest

theorem forM
    {items : List α}
    {body : α → CommandM Unit}
    (turn : ∀ item, (body item).Composed) :
    (items.forM body).Composed := by
  induction items with
  | nil =>
      exact .pure ()
  | cons item items inductionHypothesis =>
      exact (turn item).bind fun _ => inductionHypothesis

theorem change
    {step : Editor → Editor}
    (primitive : ∀ editor : Editor, editor.Primitive (step editor)) :
    (CommandM.change step).Composed :=
  fun editor => .of_primitive (primitive editor)

theorem setCursor (place : Nat) : (CommandM.setCursor place).Composed :=
  .change fun editor => editor.primitive_setCursor place

theorem setMode (mode : Mode) : (CommandM.setMode mode).Composed :=
  .change fun _ => .setsMode mode

theorem tell (message : String) : (CommandM.tell message).Composed :=
  .change fun _ => .notes rfl rfl rfl rfl ⟨rfl, rfl⟩

theorem request (action : HostAction) : (CommandM.request action).Composed :=
  .change fun _ => .notes rfl rfl rfl rfl ⟨rfl, rfl⟩

theorem store
    (text : List Char)
    (linewise : Bool) :
    (CommandM.store text linewise).Composed :=
  .change fun _ => .notes rfl rfl rfl rfl ⟨rfl, rfl⟩

/-- A change of the buffer, if it is not refused, edits the text. -/
theorem edit
    {step : Buffer → Except EditError (α × Buffer)}
    (performs :
      ∀ before result after, step before = .ok (result, after) → before.Performs after) :
    (CommandM.edit step).Composed := by
  intro editor
  rw [runOn_edit]
  cases stepped : step editor.buffer with
  | error error =>
      exact .refl editor
  | ok changed =>
      exact .of_primitive (.edits (performs _ _ _ stepped).counts)

theorem insert
    (place : Nat)
    (piece : List Char) :
    (CommandM.insert place piece).Composed := by
  apply Composed.edit
  intro before result after accepted
  obtain ⟨changed, inserted, shape⟩ := ok_of_map accepted
  cases shape
  exact Buffer.performs_of_insert inserted

theorem delete (span : Span) : (CommandM.delete span).Composed :=
  .edit fun _ _ _ accepted => Buffer.performs_of_delete accepted

theorem replace
    (span : Span)
    (piece : List Char) :
    (CommandM.replace span piece).Composed := by
  apply Composed.edit
  intro before result after accepted
  obtain ⟨⟨removed, changed⟩, replaced, shape⟩ := ok_of_map accepted
  cases shape
  exact Buffer.performs_of_replace replaced

end Composed

end CommandM

namespace Commands

open CommandM

section Editing

theorem deleteSpan_composed (span : Span) : (deleteSpan span).Composed := by
  unfold deleteSpan
  dsimp only
  split
  · exact .setCursor _
  · exact (Composed.delete span).bind fun _ => (Composed.store _ _).bind fun _ => .setCursor _

theorem deleteLineBlock_composed (lines : LineRange) : (deleteLineBlock lines).Composed := by
  apply Composed.get_bind
  intro editor
  apply (Composed.delete _).bind
  intro removed
  exact (Composed.store _ _).bind fun _ => .change fun after => after.primitive_setCursor _

theorem changeLineBlock_composed (lines : LineRange) : (changeLineBlock lines).Composed := by
  apply Composed.get_bind
  intro editor
  apply (Composed.delete _).bind
  intro removed
  exact (Composed.store _ _).bind fun _ => (Composed.setCursor _).bind fun _ => .setMode _

theorem yankLineBlock_composed (lines : LineRange) : (yankLineBlock lines).Composed :=
  .get_bind fun _ => .store _ _

theorem deleteTowards_composed
    (motion : Motion)
    (context : CommandContext) :
    (deleteTowards motion context).Composed := by
  apply Composed.get_bind
  intro editor
  split
  · exact deleteLineBlock_composed _
  · exact deleteSpan_composed _

theorem changeTowards_composed
    (motion : Motion)
    (context : CommandContext) :
    (changeTowards motion context).Composed := by
  apply Composed.get_bind
  intro editor
  split
  · exact changeLineBlock_composed _
  · exact (deleteSpan_composed _).bind fun _ => .setMode _

theorem yankTowards_composed
    (motion : Motion)
    (context : CommandContext) :
    (yankTowards motion context).Composed := by
  apply Composed.get_bind
  intro editor
  split
  · exact yankLineBlock_composed _
  · exact (Composed.store _ _).bind fun _ => .setCursor _

theorem deleteToLineEnd_composed : deleteToLineEnd.Composed := by
  have strip (place line : Nat) :
      (do
        let buffer := (← get).buffer
        let kept := buffer.lineStart line + (Text.trimEnd (buffer.lineText line)).length
        let _ ← CommandM.delete ⟨kept, buffer.lineEnd line⟩
        CommandM.setCursor (min place kept) : CommandM Unit).Composed :=
    .get_bind fun _ => (Composed.delete _).bind fun _ => .setCursor _
  apply Composed.get_bind
  intro editor
  apply (Composed.delete _).bind
  intro removed
  dsimp only
  split
  · exact strip _ _
  · exact (Composed.store _ _).bind fun _ => strip _ _

theorem deleteSelection_composed : deleteSelection.Composed := by
  apply Composed.get_bind
  intro editor
  dsimp only
  split
  · exact (deleteLineBlock_composed _).bind fun _ => .setMode _
  · exact (deleteSpan_composed _).bind fun _ => .setMode _

theorem changeSelection_composed : changeSelection.Composed := by
  apply Composed.get_bind
  intro editor
  split
  · exact changeLineBlock_composed _
  · exact (deleteSpan_composed _).bind fun _ => .setMode _

theorem yankSelection_composed : yankSelection.Composed := by
  have yank
      {command : CommandM Unit}
      (composed : command.Composed)
      (place : Nat) :
      (do
        command
        CommandM.setCursor place
        CommandM.setMode .normal : CommandM Unit).Composed :=
    composed.bind fun _ => (Composed.setCursor _).bind fun _ => .setMode _
  apply Composed.get_bind
  intro editor
  dsimp only
  split
  · exact yank (yankLineBlock_composed _) _
  · exact yank (.store _ _) _

theorem deleteChar_composed (context : CommandContext) : (deleteChar context).Composed := by
  apply Composed.get_bind
  intro editor
  dsimp only
  split
  · exact (Composed.delete _).bind fun _ => (Composed.store _ _).bind fun _ => .setCursor _
  · exact .setCursor _

theorem replaceChar_composed (context : CommandContext) : (replaceChar context).Composed := by
  apply Composed.get_bind
  intro editor
  split
  · exact .pure ()
  · dsimp only
    split
    · exact .pure ()
    · exact (Composed.replace _ _).bind fun _ => .setCursor _

theorem joinFollowing_composed (line count seam : Nat) :
    (joinFollowing line count seam).Composed := by
  induction count generalizing seam with
  | zero =>
      exact .pure seam
  | succ count inductionHypothesis =>
      have joinNext : (joinNext line).Composed :=
        .get_bind fun _ => (Composed.replace _ _).bind fun _ => .pure _
      apply Composed.get_bind
      intro editor
      split
      · exact .pure seam
      · exact joinNext.bind fun seam => inductionHypothesis seam

theorem pasteLines_composed
    (before : Bool)
    (text : List Char) :
    (pasteLines before text).Composed := by
  have insertAt (place : Nat) (piece : List Char) (line : Nat) :
      (do
        CommandM.insert place piece
        return line : CommandM Nat).Composed :=
    (Composed.insert _ _).bind fun _ => .pure _
  apply Composed.get_bind
  intro editor
  dsimp only
  split
  · exact insertAt _ _ _
  · split
    · exact insertAt _ _ _
    · exact insertAt _ _ _

theorem paste_composed
    (before : Bool)
    (context : CommandContext) :
    (paste before context).Composed := by
  apply Composed.get_bind
  intro editor
  dsimp only
  split
  · exact .pure ()
  · split
    · exact (pasteLines_composed _ _).bind fun line =>
        .change fun after => after.primitive_setCursor _
    · exact (Composed.insert _ _).bind fun _ => .setCursor _

theorem enterInsert_composed (entry : InsertEntry) : (enterInsert entry).Composed := by
  have insertPlace : (insertPlace entry).Composed := by
    apply Composed.get_bind
    intro editor
    cases entry with
    | beforeCursor | afterCursor | lineStart | lineEnd => exact .pure _
    | lineBelow | lineAbove => exact (Composed.insert _ _).bind fun _ => .pure _
  exact insertPlace.bind fun _ => (Composed.setCursor _).bind fun _ => .setMode _

/-- Replaying steps of the buffer that count is putting the cursor after each of them. -/
theorem replay_composed
    {step : Buffer → Except EditError Nat × Buffer}
    (counts : ∀ buffer : Buffer, buffer.Counts (step buffer).2)
    (refusal : String)
    (count : Nat) :
    (replay step refusal count).Composed := by
  intro editor
  induction count generalizing editor with
  | zero =>
      exact .refl editor
  | succ count inductionHypothesis =>
      have counted := counts editor.buffer
      unfold replay
      rw [runOn_get_bind]
      cases stepped : step editor.buffer with
      | mk result buffer =>
          rw [stepped] at counted
          have edited : editor.Becomes { editor with buffer } :=
            .of_primitive (.edits counted)
          cases result with
          | error error =>
              exact edited.trans (.of_primitive (.notes rfl rfl rfl rfl ⟨rfl, rfl⟩))
          | ok place =>
              have arrived := Editor.primitive_setCursor { editor with buffer } place
              exact (edited.trans (.of_primitive arrived)).trans (inductionHypothesis _)

end Editing

section Lines

theorem indentLine_composed (line units : Nat) : (indentLine line units).Composed := by
  apply Composed.get_bind
  intro editor
  split
  · exact .pure ()
  · exact .insert _ _

theorem outdentLine_composed (line units : Nat) : (outdentLine line units).Composed :=
  .get_bind fun _ => (Composed.delete _).bind fun _ => .pure ()

/-- Changing lines one by one ends in normal mode with the cursor put on one of them. -/
theorem forLines_composed
    {body : Nat → CommandM Unit}
    (turn : ∀ line, (body line).Composed)
    (lines : LineRange)
    (place : Editor → Nat) :
    (do
      CommandM.forLines lines body
      CommandM.setMode .normal
      CommandM.change fun editor => editor.setCursor (place editor) :
        CommandM Unit).Composed := by
  apply (Composed.forM turn).bind
  intro _
  exact (Composed.setMode _).bind fun _ => .change fun after => after.primitive_setCursor _

theorem shift_composed
    (right : Bool)
    (context : CommandContext) :
    (shift right context).Composed := by
  apply Composed.get_bind
  intro editor
  apply forLines_composed
  intro line
  split
  · exact indentLine_composed _ _
  · exact outdentLine_composed _ _

theorem commentLines_composed
    (change : CommentChange)
    (context : CommandContext) :
    (commentLines change context).Composed := by
  apply Composed.get_bind
  intro editor
  apply forLines_composed
  intro line
  apply Composed.get_bind
  intro editor
  dsimp only
  split
  · exact .replace _ _
  · exact .pure ()

theorem insertAndGoOn_composed
    (place : Nat)
    (text : List Char) :
    (insertAndGoOn place text).Composed :=
  (Composed.insert _ _).bind fun _ => (Composed.setCursor _).bind fun _ => .setMode _

theorem changeCase_composed (upper : Bool) : (changeCase upper).Composed := by
  have go (place : Nat) :
      (do
        CommandM.setMode .normal
        CommandM.setCursor place : CommandM Unit).Composed :=
    (Composed.setMode _).bind fun _ => .setCursor _
  apply Composed.get_bind
  intro editor
  split
  · exact .pure ()
  · rename_i span _
    dsimp only
    generalize
      (if upper = true then Text.upperText (editor.buffer.spanText span)
        else Text.lowerText (editor.buffer.spanText span)) = mapped
    split
    · exact (Composed.replace _ _).bind fun _ => go _
    · exact go _

theorem surroundWord_composed (context : CommandContext) :
    (surroundWord context).Composed := by
  apply Composed.get_bind
  intro editor
  split
  · exact (Composed.insert _ _).bind fun _ =>
      (Composed.insert _ _).bind fun _ => .setCursor _
  · exact .pure ()

theorem deleteSurround_composed (context : CommandContext) :
    (deleteSurround context).Composed := by
  apply Composed.get_bind
  intro editor
  split
  · exact (Composed.delete _).bind fun _ =>
      (Composed.delete _).bind fun _ => .setCursor _
  · exact .pure ()

theorem changeSurround_composed (context : CommandContext) :
    (changeSurround context).Composed := by
  apply Composed.get_bind
  intro editor
  split
  · split
    · exact (Composed.replace _ _).bind fun _ =>
        (Composed.replace _ _).bind fun _ => .setCursor _
    · exact .pure ()
  · exact .pure ()

theorem retabFrom_composed
    (unit : Option Nat)
    (line : Nat)
    (widths : List Nat) :
    (retabFrom unit line widths).Composed := by
  have retabLine (line width : Nat) : (retabLine unit line width).Composed := by
    apply Composed.get_bind
    intro editor
    dsimp only
    split
    · exact .pure _
    · exact (Composed.replace _ _).bind fun _ => .pure _
  induction widths generalizing line with
  | nil =>
      exact .pure 0
  | cons width widths inductionHypothesis =>
      exact (retabLine line width).bind fun _ =>
        (inductionHypothesis (line + 1)).bind fun _ => .pure _

theorem substituteLine_composed
    (pattern replacement : List Char)
    (everywhere : Bool)
    (line : Nat) :
    (substituteLine pattern replacement everywhere line).Composed := by
  apply Composed.get_bind
  intro editor
  exact (Composed.forM fun _ => Composed.replace _ _).bind fun _ => .pure _

theorem substituteLines_composed
    (pattern replacement : List Char)
    (everywhere : Bool)
    (lines : List Nat) :
    (substituteLines pattern replacement everywhere lines).Composed := by
  induction lines with
  | nil =>
      exact .pure 0
  | cons line lines inductionHypothesis =>
      exact (substituteLine_composed _ _ _ line).bind fun _ =>
        inductionHypothesis.bind fun _ => .pure _

theorem substitute_composed
    (pattern replacement : List Char)
    (wholeDocument everywhere : Bool) :
    (substitute pattern replacement wholeDocument everywhere).Composed := by
  have told (count : Nat) :
      (if count = 0 then
        tellNotFound pattern
      else
        CommandM.tell
          (toString count ++ " substitution" ++ pluralEnding count)).Composed := by
    split
    · exact .tell _
    · exact .tell _
  apply Composed.get_bind
  intro editor
  dsimp only
  split
  · have replaced :
        (CommandM.edit fun buffer => buffer.replaceAll pattern replacement).Composed :=
      .edit fun _ _ _ accepted => Buffer.performs_of_replaceAll accepted
    exact replaced.bind told
  · split
    · exact (substituteLines_composed _ _ _ _).bind told
    · exact (substituteLine_composed _ _ _ _).bind told

end Lines

section Looking

theorem gotoDefinition_composed : gotoDefinition.Composed := by
  have jumpTo (location : Location) : (jumpTo location).Composed := by
    intro editor
    have noted :
        editor.Primitive { editor with jumps := editor.jumps.push editor.position } :=
      .notes rfl rfl rfl rfl ⟨rfl, rfl⟩
    exact (Editor.Becomes.of_primitive noted).trans
      (.of_primitive (.moves rfl (.inr (.inl rfl))))
  apply Composed.get_bind
  intro editor
  split
  · exact .tell _
  · dsimp only
    split
    · exact jumpTo _
    · exact .tell _
    · exact .tell _
    · exact (Composed.tell _).bind fun _ => .request _
    · exact .tell _

theorem followJump_composed (found : Option (Nat × JumpList)) :
    (followJump found).Composed := by
  cases found with
  | none =>
      exact .pure ()
  | some arrival =>
      intro editor
      have noted : editor.Primitive { editor with jumps := arrival.2 } :=
        .notes rfl rfl rfl rfl ⟨rfl, rfl⟩
      exact (Editor.Becomes.of_primitive noted).trans
        (.of_primitive (Editor.primitive_setCursor _ _))

theorem setSearch_composed
    (term : List Char)
    (wholeWord : Bool) :
    (setSearch term wholeWord).Composed :=
  .change fun _ => .searchesFor term wholeWord

theorem tellMatches_composed (term : List Char) : (tellMatches term).Composed :=
  .change fun _ => .notes rfl rfl rfl rfl ⟨rfl, rfl⟩

/-- Taking up a search again is searching for its term, if there is one. -/
theorem resume_composed : (changeSearch SearchState.resume).Composed := by
  apply Composed.change
  intro editor
  unfold SearchState.resume
  split
  · split
    · exact .notes rfl rfl rfl rfl ⟨rfl, rfl⟩
    · exact .searchesFor _ _
  · exact .notes rfl rfl rfl rfl ⟨rfl, rfl⟩

theorem searchWord_composed : searchWord.Composed := by
  apply Composed.get_bind
  intro editor
  split
  · exact .tell _
  · exact (setSearch_composed _ _).bind fun _ => tellMatches_composed _

theorem searchNext_composed
    (forward : Bool)
    (context : CommandContext) :
    (searchNext forward context).Composed := by
  apply resume_composed.bind
  intro _
  apply Composed.get_bind
  intro editor
  dsimp only
  split
  · exact .setCursor _
  · exact .tell _
  · exact .tell _

theorem searchTerm_composed (term : List Char) : (searchTerm term).Composed := by
  apply (setSearch_composed _ _).bind
  intro _
  apply Composed.get_bind
  intro editor
  split
  · exact .pure ()
  · split
    · exact .tell _
    · dsimp only
      split
      · exact (Composed.setCursor _).bind fun _ => tellMatches_composed term
      · exact (Composed.pure ()).bind fun _ => tellMatches_composed term

end Looking

/-- Every action is made of primitive changes. -/
theorem runAction_composed
    (action : Action)
    (context : CommandContext) :
    (runAction action context).Composed := by
  cases action with
  | move motion =>
      exact .change fun editor => editor.primitive_moveCursor motion _ id
  | delete motion => exact deleteTowards_composed motion context
  | change motion => exact changeTowards_composed motion context
  | yank motion => exact yankTowards_composed motion context
  | deleteLines => exact .get_bind fun _ => deleteLineBlock_composed _
  | changeLines => exact .get_bind fun _ => changeLineBlock_composed _
  | yankLines => exact .get_bind fun _ => yankLineBlock_composed _
  | deleteToLineEnd => exact deleteToLineEnd_composed
  | deleteChar => exact deleteChar_composed context
  | substituteChar => exact (deleteChar_composed context).bind fun _ => .setMode _
  | replaceChar => exact replaceChar_composed context
  | joinLines =>
      exact .get_bind fun _ => (joinFollowing_composed _ _ _).bind fun _ => .setCursor _
  | paste before => exact paste_composed before context
  | insert entry => exact enterInsert_composed entry
  | visual mode => exact .change fun _ => .setsMode _
  | deleteSelection => exact deleteSelection_composed
  | changeSelection => exact changeSelection_composed
  | yankSelection => exact yankSelection_composed
  | indent => exact shift_composed true context
  | outdent => exact shift_composed false context
  | changeCase upper => exact changeCase_composed upper
  | comment change => exact commentLines_composed change context
  | commentLineEnd | commentAtCursor => exact .get_bind fun _ => insertAndGoOn_composed _ _
  | surround => exact surroundWord_composed context
  | deleteSurround => exact deleteSurround_composed context
  | changeSurround => exact changeSurround_composed context
  | searchWord => exact searchWord_composed
  | searchNext => exact searchNext_composed true context
  | searchPrevious => exact searchNext_composed false context
  | clearSearch => exact .change fun _ => .dropsSearch
  | openPrompt prompt => exact .change fun _ => .notes rfl rfl rfl rfl ⟨rfl, rfl⟩
  | gotoDefinition => exact gotoDefinition_composed
  | jumpBack | jumpForward => exact .get_bind fun _ => followJump_composed _
  | scrollDown | scrollUp => exact .change fun editor => editor.primitive_scrollBy _
  | centerView => exact .change fun _ => .moves rfl (.inl rfl)
  | undo =>
      have replays := replay_composed Buffer.undo_counts "Already at oldest change"
      rw [runAction, undo_eq_replay]
      exact replays context.count
  | redo =>
      have replays := replay_composed Buffer.redo_counts "Already at newest change"
      rw [runAction, redo_eq_replay]
      exact replays context.count
  | nextPage | previousPage | zoomIn | zoomOut => exact .request _

/-- Every key of insert mode is made of primitive changes. -/
theorem runInsertKey_composed (key : InsertKey) : (runInsertKey key).Composed := by
  have removing (span : Span) (place : Nat) :
      (do
        let _ ← CommandM.delete span
        CommandM.setCursor place : CommandM Unit).Composed :=
    (Composed.delete _).bind fun _ => .setCursor _
  have inserting (place : Nat) (piece : List Char) (arrival : Nat) :
      (do
        CommandM.insert place piece
        CommandM.setCursor arrival : CommandM Unit).Composed :=
    (Composed.insert _ _).bind fun _ => .setCursor _
  cases key with
  | char c =>
      apply Composed.get_bind
      intro editor
      dsimp only
      split
      · exact .setCursor _
      · exact inserting _ _ _
  | newline =>
      have breaking (cut place : Nat) (piece : List Char) (arrival : Nat) :
          (do
            if cut < place then
              let _ ← CommandM.delete ⟨cut, place⟩
            CommandM.insert cut piece
            CommandM.setCursor arrival : CommandM Unit).Composed := by
        split
        · exact (Composed.delete _).bind fun _ => inserting _ _ _
        · exact inserting _ _ _
      exact .get_bind fun _ => breaking _ _ _ _
  | tab => exact .get_bind fun _ => inserting _ _ _
  | outdent =>
      apply Composed.get_bind
      intro editor
      exact (outdentLine_composed _ _).bind fun _ => .get_bind fun _ => .setCursor _
  | backspace =>
      apply Composed.get_bind
      intro editor
      dsimp only
      split
      · exact .pure ()
      · split
        · exact removing _ _
        · exact removing _ _
  | delete =>
      apply Composed.get_bind
      intro editor
      dsimp only
      split
      · exact (Composed.delete _).bind fun _ => .pure ()
      · exact .pure ()
  | move motion =>
      exact .change fun editor => editor.primitive_moveCursor motion _ nofun

/-- Every submitted command is made of primitive changes. -/
theorem runLine_composed (command : LineCommand) : (runLine command).Composed := by
  cases command with
  | empty => exact .pure ()
  | write | quit | tabNew | tabClose | tabOnly => exact .request _
  | writeQuit => exact (Composed.request _).bind fun _ => .request _
  | retab => exact (Composed.get_bind fun _ => retabFrom_composed _ _ _).bind fun _ => .tell _
  | gotoLine line => exact .change fun editor => editor.primitive_setCursor _
  | search term => exact searchTerm_composed term
  | substitute pattern replacement wholeDocument everywhere =>
      exact substitute_composed pattern replacement wholeDocument everywhere
  | unknown text => exact .tell _

end Commands

end ChordEditor
