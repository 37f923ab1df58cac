import ChordEditor.Proofs.Commands.Substituting
import ChordEditor.Proofs.Session.Submitting

namespace ChordEditor.Editor

/-!
# Substitutions in a session

A submitted substitution shows its text and tells how often it has replaced the pattern.
With `g` in the whole document it looks at the text at once; line by line, from the last
line to the first one, the same comes out.
-/

/-- What is seen of a substitution: the text, and how often the pattern was replaced. -/
structure ShowsSubstitution
    (pattern text : List Char)
    (count : Nat)
    (ended : EventOutcome × Editor) : Prop where
  text : ended.2.buffer.text = text
  message : ended.1.message = some (Commands.substitutionMessage pattern count)

/-- A submitted substitution in the whole document shows the lines with the pattern replaced. -/
theorem submitCommandLine_shows
    {editor : Editor}
    {pattern replacement text input : List Char}
    {everywhere : Bool}
    {count : Nat}
    (replaced :
      Text.LinesReplaced everywhere pattern replacement (Text.lines editor.buffer.text) text
        count)
    (somePattern : pattern ≠ [])
    (noBreak : Text.HasNoBreak pattern)
    (asks : LineCommand.read input = .substitute pattern replacement true everywhere) :
    ShowsSubstitution pattern text count (editor.submitCommandLine input) := by
  let begun := editor.fresh.closeCommandLine.beginGroup "command-line"
  obtain ⟨changed, ended, isText⟩ :=
    @Commands.substitute_runOn begun _ _ _ _ _ replaced somePattern noBreak
  have accepted :
      (Commands.runLine (LineCommand.read input)).runOn begun =
        (.ok (),
          ({ begun with buffer := changed }).tell
            (Commands.substitutionMessage pattern count)) := by
    rw [asks]
    exact ended
  rw [submitCommandLine_of_accepted accepted]
  constructor
  · rw [finishEvent_buffer]
    exact isText
  · rw [finishEvent_message]
    rfl

/--
Replacing a pattern in the whole document at once leaves the text, and gives the count,
that replacing it line by line from the last line to the first one does.  Without `g` the
first occurrence on each line that has one is replaced, and nothing else.
-/
theorem whole_document_substitution_is_line_by_line
    (editor : Editor)
    {pattern : List Char}
    (somePattern : pattern ≠ [])
    (noBreak : Text.HasNoBreak pattern)
    (replacement : List Char) :
    (∃ count whole lineByLine,
        editor.buffer.replaceAll pattern replacement = .ok (count, whole) ∧
          (Commands.substituteLines pattern replacement true
              (List.range editor.buffer.lineCount).reverse).runOn editor =
              (.ok count, lineByLine) ∧
            lineByLine.buffer.text = whole.text ∧
              ∀ input,
                LineCommand.read input = .substitute pattern replacement true true →
                  ShowsSubstitution pattern whole.text count
                    (editor.submitCommandLine input)) ∧
      ∃ count text,
        Text.LinesReplaced false pattern replacement (Text.lines editor.buffer.text) text
            count ∧
          ∀ input,
            LineCommand.read input = .substitute pattern replacement true false →
              ShowsSubstitution pattern text count (editor.submitCommandLine input) := by
  constructor
  · obtain ⟨count, changed, ended, replaced⟩ :=
      Commands.substituteAllLines_runOn editor replacement true somePattern noBreak
    obtain ⟨whole, accepted, isText⟩ :=
      Buffer.replaceAll_replaced (replaced.replaced noBreak) somePattern
    refine ⟨count, whole, _, accepted, ended, isText.symm, ?_⟩
    rw [isText]
    intro input asks
    exact submitCommandLine_shows replaced somePattern noBreak asks
  · obtain ⟨count, changed, _, replaced⟩ :=
      Commands.substituteAllLines_runOn editor replacement false somePattern noBreak
    refine ⟨count, changed.text, replaced, ?_⟩
    intro input asks
    exact submitCommandLine_shows replaced somePattern noBreak asks

/-- A replacement may bring in a LF behind the CR that ends the line before. -/
theorem substituting_newline_behind_return :
    let editor := demo "aa\r\naaa\raa".toList
    let shown := (editor.submitCommandLine "%s/aa/\na/g".toList).2
    (∃ count lineByLine,
        (Commands.substituteLines "aa".toList "\na".toList true
            (List.range editor.buffer.lineCount).reverse).runOn editor =
            (.ok count, lineByLine) ∧
          shown.buffer.text = lineByLine.buffer.text) ∧
      shown.buffer.text = "\na\r\n\naa\r\na".toList := by
  obtain ⟨⟨count, whole, lineByLine, _, ended, same, shows⟩, _⟩ :=
    whole_document_substitution_is_line_by_line (demo "aa\r\naaa\raa".toList)
      (show "aa".toList ≠ [] by decide) (by simp [Text.HasNoBreak, Text.isLineBreak])
      "\na".toList
  have asks :
      LineCommand.read "%s/aa/\na/g".toList = .substitute "aa".toList "\na".toList true true := by
    decide +kernel
  exact ⟨⟨count, lineByLine, ended, ((shows _ asks).text).trans same.symm⟩, by decide +kernel⟩

end ChordEditor.Editor
