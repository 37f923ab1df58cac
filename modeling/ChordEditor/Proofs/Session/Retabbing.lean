import Mathlib.Data.List.GetD
import ChordEditor.Proofs.Commands.Retabbing
import ChordEditor.Proofs.Session.Submitting

namespace ChordEditor.Editor

/-!
# Texts indented anew

Indenting a text anew changes the indentation of its lines and nothing else, and no line
comes to be indented further than one that was indented more.  Depths are kept if the
unit found in the text has more than one column: one column is not taken for a unit to
rescale, so such lines are only brought to the next tab.

The unit is found by what is most frequent, so it need not be the tab width in the text
that comes out: indenting this anew may change it again.
-/

theorem read_retab : LineCommand.read "retab".toList = .retab := by
  decide +kernel

/-- What is seen when lines have been indented anew. -/
structure ShowsRetab
    (editor : Editor)
    (own : List (List Char))
    (ended : EventOutcome × Editor) : Prop where
  lines :
    ended.2.buffer.HasLines
      (own.map
        (Commands.retabbed editor.settings.tabWidth
          (Commands.indentUnit? editor.settings.tabWidth own)))
  message :
    ended.1.message =
      some
        (Commands.retabMessage
          (own.countP fun line =>
            Commands.retabbed editor.settings.tabWidth
              (Commands.indentUnit? editor.settings.tabWidth own) line ≠ line))

variable
  {editor between : Editor}
  {own : List (List Char)}
  {ended once twice : EventOutcome × Editor}

/-- However it is submitted, the lines are indented anew, and those that changed are told. -/
theorem Submits.shows_retab
    (submits : editor.Submits .retab ended)
    (hasLines : editor.buffer.HasLines own) :
    editor.ShowsRetab own ended := by
  obtain ⟨input, asks, rfl⟩ := submits.exists_line
  let begun := editor.fresh.closeCommandLine.beginGroup "command-line"
  have begunHas : begun.buffer.HasLines own := hasLines.of_text_eq rfl
  obtain ⟨changed, accepted, changedHas⟩ := Commands.runLine_retab_runOn begunHas
  rw [← asks] at accepted
  rw [submitCommandLine_of_accepted accepted]
  constructor
  · rw [finishEvent_buffer]
    exact changedHas.of_text_eq rfl
  · rw [finishEvent_message]
    rfl

namespace ShowsRetab

variable
  (shows : editor.ShowsRetab own ended)
  (hasLines : editor.buffer.HasLines own)

include shows hasLines

/-- Each line, by its number, has been indented anew. -/
theorem lineText_eq (number : Nat) :
    ended.2.buffer.lineText number =
      Commands.retabbed editor.settings.tabWidth
        (Commands.indentUnit? editor.settings.tabWidth own)
        (editor.buffer.lineText number) := by
  have mapped :=
    @List.getD_map _ _ own [] number
      (Commands.retabbed editor.settings.tabWidth
        (Commands.indentUnit? editor.settings.tabWidth own))
  rw [Commands.retabbed_nil] at mapped
  rw [shows.lines.lineText_eq_getD, hasLines.lineText_eq_getD, mapped]

/-- The width of a line is the new one for its former width. -/
theorem indentWidth_eq (number : Nat) :
    Text.indentWidth (ended.2.buffer.lineText number) editor.settings.tabWidth =
      Commands.retabbedWidth editor.settings.tabWidth
        (Commands.indentUnit? editor.settings.tabWidth own)
        (Text.indentWidth (editor.buffer.lineText number) editor.settings.tabWidth) := by
  rw [shows.lineText_eq hasLines, Commands.indentWidth_retabbed]

/-- Those that changed are the lines whose indentation did. -/
theorem countP_changed :
    (own.countP fun line =>
        Commands.retabbed editor.settings.tabWidth
          (Commands.indentUnit? editor.settings.tabWidth own) line ≠ line) =
      (List.range editor.buffer.lineCount).countP fun number =>
        Text.leadingBlank (ended.2.buffer.lineText number) ≠
          Text.leadingBlank (editor.buffer.lineText number) := by
  rw [hasLines.countP_eq]
  apply List.countP_congr
  intro number _
  rw [decide_eq_true_iff, decide_eq_true_iff, shows.lineText_eq hasLines, ne_eq, ne_eq,
    Commands.retabbed_eq_iff]

end ShowsRetab

end ChordEditor.Editor
