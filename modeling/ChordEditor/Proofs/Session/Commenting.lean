import ChordEditor.Proofs.Commands.Commenting
import ChordEditor.Proofs.Session.DeleteThenPaste

namespace ChordEditor.Editor

/-!
# Comments in a session

Commenting lines and uncommenting them again puts the text back.  Toggling comments twice
does so for the lines that were no comments, as long as no line is lost: below a line that
ends with CR, a comment of which nothing is left goes with its LF.
-/

/-- An operation changes the comments of some lines. -/
def ChangesComments
    (change : CommentChange)
    (lines : LineRange)
    (before after : Editor) : Prop :=
  ∃ (operation : Operation) (context : CommandContext),
    operation.actionOn? before = some (.comment change, context) ∧
      before.linesActedOn context.count = lines ∧ after = operation.run before

/-- Whether two editors have the same text and grammar. -/
structure SameDocument (first second : Editor) : Prop where
  text : second.buffer.text = first.buffer.text
  grammar : second.grammar = first.grammar

/-- The lines outside of some lines are as they were, with their breaks. -/
def KeepsOtherLines (lines : LineRange) (before after : Editor) : Prop :=
  ∀ number,
    number < lines.first ∨ lines.last < number →
      (Text.lines after.buffer.text)[number]? = (Text.lines before.buffer.text)[number]?

namespace ChangesComments

variable
  {change : CommentChange}
  {lines : LineRange}
  {before after : Editor}

/-- The lines are changed one after the other. -/
theorem text_eq (changes : before.ChangesComments change lines after) :
    after.buffer.text =
      Text.changeEach (Commands.commentedLine before.grammar.commentMarker change)
        before.buffer.text (List.range' lines.first (lines.last + 1 - lines.first)) := by
  obtain ⟨operation, context, runs, rfl, rfl⟩ := changes
  have accepted (dispatcher : Dispatcher) :
      ∃ left,
        (Commands.runAction (.comment change) context).runOn
            (before.asked dispatcher (.comment change)) = (.ok (), left) ∧
          left.buffer.text =
            Text.changeEach (Commands.commentedLine before.grammar.commentMarker change)
              before.buffer.text
              (List.range' (before.linesActedOn context.count).first
                ((before.linesActedOn context.count).last + 1 -
                  (before.linesActedOn context.count).first)) :=
    Commands.commentLines_runOn (before.asked dispatcher (.comment change)) change context
  obtain ⟨left, text, seen⟩ := run_of_accepted runs accepted
  exact seen.text.trans text

theorem grammar_eq (changes : before.ChangesComments change lines after) :
    after.grammar = before.grammar := by
  obtain ⟨operation, context, runs, _, rfl⟩ := changes
  obtain ⟨dispatcher, modeBefore, handled, ran⟩ := Operation.run_of_action runs
  rw [ran, finishEvent_grammar]
  exact (runAction_looks _ _ _).1

end ChangesComments

section Twice

variable
  {editor once between twice : Editor}
  {lines : LineRange}
  {first second : CommentChange}

/-- Whether a number is that of a line between two, by how many lines there are. -/
theorem lt_block_iff
    {number : Nat}
    (starts : lines.first ≤ number) :
    number < lines.first + (lines.last + 1 - lines.first) ↔ number ≤ lines.last := by
  omega

/-- Comments that are changed twice on the same lines. -/
theorem comments_changed_twice
    (noBreak : Text.HasNoBreak editor.grammar.commentMarker)
    (changes : editor.ChangesComments first lines once)
    (same : once.SameDocument between)
    (changesAgain : between.ChangesComments second lines twice) :
    let change := Commands.commentedLine editor.grammar.commentMarker first
    let next := Commands.commentedLine editor.grammar.commentMarker second
    let noneLost :=
      ∀ number,
        lines.first ≤ number →
          number ≤ lines.last → ¬ Text.EmptiedBetween (next ∘ change) editor.buffer.text number
    (twice.buffer.lineCount = editor.buffer.lineCount ↔ noneLost) ∧
      (noneLost →
        Text.LinesChanged change lines.first (lines.last + 1 - lines.first) editor.buffer.text
            once.buffer.text ∧
          Text.LinesChanged (next ∘ change) lines.first (lines.last + 1 - lines.first)
            editor.buffer.text twice.buffer.text) := by
  intro change next noneLost
  have onceText := changes.text_eq
  have twiceText := changesAgain.text_eq
  rw [same.text, same.grammar, changes.grammar_eq] at twiceText
  obtain ⟨sameCount, whole⟩ :=
    Text.changeEach_twice (Commands.commentedLine_keepsEnds noBreak first)
      (Commands.commentedLine_newline noBreak first)
      (Commands.commentedLine_keepsEnds noBreak second)
      (Commands.commentedLine_newline noBreak second) editor.buffer.text lines.first
      (lines.last + 1 - lines.first)
  rw [← onceText, ← twiceText] at sameCount whole
  have inBlock :
      (∀ number,
        lines.first ≤ number →
          number < lines.first + (lines.last + 1 - lines.first) →
            ¬ Text.EmptiedBetween (next ∘ change) editor.buffer.text number) ↔
        noneLost :=
    forall_congr' fun number => forall_congr' fun starts => by rw [lt_block_iff starts]
  have counted (buffer : Buffer) : buffer.lineCount = Text.breakCount buffer.text + 1 :=
    Text.length_lines buffer.text
  rw [counted, counted, Nat.add_right_cancel_iff, ← inBlock]
  exact ⟨sameCount, whole⟩

/-- Lines outside of a block that is changed are as they were. -/
theorem keepsOtherLines_of_changed
    {change : List Char → List Char}
    {after : Editor}
    (linesChanged :
      Text.LinesChanged change lines.first (lines.last + 1 - lines.first) editor.buffer.text
        after.buffer.text) :
    editor.KeepsOtherLines lines after := by
  intro number outside
  apply linesChanged.getElem?_eq
  intro starts stops
  omega

/--
Commenting lines and then uncommenting them restores the text, and toggling their comments
twice restores every line that was no comment, for a marker that begins with no blank.
Lines outside are never changed, but for one case: toggling twice keeps the number of lines
exactly if no line below a CR is a comment of which nothing is left before its LF.
-/
theorem comment_changes_cancel
    (startsVisible :
      ∃ c rest, editor.grammar.commentMarker = c :: rest ∧ Text.isBlank c = false)
    (noBreak : Text.HasNoBreak editor.grammar.commentMarker) :
    (∀ once between twice,
        editor.ChangesComments .comment lines once →
          once.SameDocument between →
            between.ChangesComments .uncomment lines twice →
              twice.buffer.text = editor.buffer.text ∧ editor.KeepsOtherLines lines once) ∧
      ∀ once between twice,
        editor.ChangesComments .toggle lines once →
          once.SameDocument between →
            between.ChangesComments .toggle lines twice →
              let marker := editor.grammar.commentMarker
              let toggle := Commands.commentedLine marker .toggle
              let noneLost :=
                ∀ number,
                  lines.first ≤ number →
                    number ≤ lines.last →
                      ¬ Text.EmptiedBetween (toggle ∘ toggle) editor.buffer.text number
              (twice.buffer.lineCount = editor.buffer.lineCount ↔ noneLost) ∧
                (noneLost →
                  editor.KeepsOtherLines lines once ∧
                    editor.KeepsOtherLines lines twice ∧
                      ∀ number,
                        ¬ marker <+: Text.trimStart (editor.buffer.lineText number) →
                          (Text.lines twice.buffer.text)[number]? =
                            (Text.lines editor.buffer.text)[number]?) := by
  constructor
  · intro once between twice changes same changesAgain
    have cancels {line : List Char} (isLine : line ∈ Text.lines editor.buffer.text) :=
      Commands.uncommentedLine_commentedLine startsVisible noBreak isLine
    obtain ⟨_, whole⟩ := comments_changed_twice noBreak changes same changesAgain
    obtain ⟨onceChanged, twiceChanged⟩ := whole <| by
      rintro number _ _ ⟨above, line, _, _, isLine, _, someText, emptied⟩
      rw [Function.comp_apply, cancels (List.mem_of_getElem? isLine)] at emptied
      exact someText emptied
    refine ⟨?_, keepsOtherLines_of_changed onceChanged⟩
    have sameLines : Text.lines twice.buffer.text = Text.lines editor.buffer.text := by
      apply List.ext_getElem?
      intro number
      apply twiceChanged.getElem?_eq
      intro _ _ line isLine
      exact cancels (List.mem_of_getElem? isLine)
    rw [← Text.flatten_lines twice.buffer.text, sameLines, Text.flatten_lines]
  · intro once between twice changes same changesAgain marker toggle noneLost
    obtain ⟨sameCount, whole⟩ := comments_changed_twice noBreak changes same changesAgain
    refine ⟨sameCount, ?_⟩
    intro unlost
    obtain ⟨onceChanged, twiceChanged⟩ := whole unlost
    refine
      ⟨keepsOtherLines_of_changed onceChanged, keepsOtherLines_of_changed twiceChanged, ?_⟩
    intro number notCommented
    apply twiceChanged.getElem?_eq
    intro _ _ line isLine
    apply Commands.toggledLine_toggledLine startsVisible noBreak (List.mem_of_getElem? isLine)
    have own : editor.buffer.lineText number = Text.withoutReturn line := by
      unfold Buffer.lineText Buffer.line?
      rw [isLine]
      rfl
    rwa [own] at notCommented

/-- Three lines are commented and uncommented, and two of them toggled twice, and come back. -/
theorem three_lines_come_back :
    let editor := demo "  x\n#y\n\nz".toList
    let commented := (editor.execute (.comment .comment) { count := 3 }).2
    let uncommented := (commented.execute (.comment .uncomment) { count := 3 }).2
    let toggled := (editor.execute (.comment .toggle) { count := 3 }).2
    let toggledTwice := (toggled.execute (.comment .toggle) { count := 3 }).2
    (uncommented.buffer.text = editor.buffer.text ∧ editor.KeepsOtherLines ⟨0, 2⟩ commented) ∧
      editor.KeepsOtherLines ⟨0, 2⟩ toggled ∧
        (Text.lines toggledTwice.buffer.text)[0]? = (Text.lines editor.buffer.text)[0]? := by
  intro editor commented uncommented toggled toggledTwice
  have changes
      (change : CommentChange)
      (before : Editor)
      (onThree : before.linesActedOn 3 = ⟨0, 2⟩) :
      before.ChangesComments change ⟨0, 2⟩ (before.execute (.comment change) { count := 3 }).2 :=
    ⟨.execute (.comment change) { count := 3 }, _, rfl, onThree, rfl⟩
  have isMarker : editor.grammar.commentMarker = ['#'] := rfl
  have noBreak : Text.HasNoBreak editor.grammar.commentMarker := by
    rw [isMarker]
    simp [Text.HasNoBreak, Text.isLineBreak]
  obtain ⟨cancel, toggle⟩ :=
    @comment_changes_cancel editor ⟨0, 2⟩ ⟨'#', [], isMarker, by decide⟩ noBreak
  have onceCommented := changes .comment editor (by decide +kernel)
  have twiceCommented := changes .uncomment commented (by decide +kernel)
  have onceToggled := changes .toggle editor (by decide +kernel)
  have twiceToggled := changes .toggle toggled (by decide +kernel)
  obtain ⟨sameCount, restores⟩ :=
    toggle toggled toggled toggledTwice onceToggled ⟨rfl, rfl⟩ twiceToggled
  have noLineLost : toggledTwice.buffer.lineCount = editor.buffer.lineCount := by
    decide +kernel
  obtain ⟨others, _, restored⟩ := restores (sameCount.mp noLineLost)
  refine ⟨?_, others, restored 0 ?_⟩
  · exact cancel commented commented uncommented onceCommented ⟨rfl, rfl⟩ twiceCommented
  · rw [isMarker]
    decide +kernel

/-- A line that ends the block moves up and stays, and one behind the block is commented. -/
example :
    let below := (demo "a\r#\nb\nc".toList).afterAll [.execute (.move .down) {}]
    let toggled := (below.execute (.comment .toggle) { count := 2 }).2
    below.linesActedOn 2 = ⟨1, 2⟩ ∧ toggled.buffer.text = "a\r\nb\n# c".toList := by
  decide +kernel

end Twice

end ChordEditor.Editor
