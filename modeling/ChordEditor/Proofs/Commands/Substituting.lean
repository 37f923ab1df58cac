import ChordEditor.Commands.Line
import ChordEditor.Proofs.Buffer.Replacing
import ChordEditor.Proofs.Commands.Pasting
import ChordEditor.Proofs.Text.ReplacedLines
import Mathlib.Data.List.Induction

namespace ChordEditor.Commands

/-!
# Substitutions

A substitution on some lines goes from the last line to the first one.  Lines that are
left are before all that has changed, so each of them is found where it was, with its own
text.  What comes out is the text with the pattern replaced in each of the lines, which is
what replacing it everywhere in the text at once gives (`Text.LinesReplaced.replaced`).
-/

open CommandM

variable
  {editor : Editor}
  {pattern replacement text result : List Char}
  {everywhere : Bool}
  {count : Nat}

/-- Replacements that the buffer accepts are made one after the other. -/
theorem replaceEach_runOn
    {length : Nat}
    {places : List Nat}
    {changed : Buffer}
    (accepted : editor.buffer.replaceEach length replacement places = .ok changed) :
    (replaceEach length replacement places).runOn editor =
      (.ok (), { editor with buffer := changed }) := by
  induction places generalizing editor with
  | nil =>
      cases accepted
      rfl
  | cons place places inductionHypothesis =>
      rw [Buffer.replaceEach] at accepted
      cases replaced : editor.buffer.replace place (place + length) replacement with
      | error error =>
          rw [replaced] at accepted
          contradiction
      | ok result =>
          obtain ⟨removed, between⟩ := result
          rw [replaced] at accepted
          have first :
              (CommandM.replace ⟨place, place + length⟩ replacement).runOn editor =
                (.ok (), { editor with buffer := between }) :=
            runOn_replace replaced
          change (CommandM.replace ⟨place, place + length⟩ replacement >>= fun _ =>
            replaceEach length replacement places).runOn editor = _
          rw [runOn_bind_of_ok first]
          exact inductionHypothesis accepted

/-- A substitution on a line replaces the pattern in the line's own text. -/
theorem substituteLine_runOn
    {line : Nat}
    {kept own behind : List Char}
    (starts : editor.buffer.lineStart line = kept.length)
    (isOwn : editor.buffer.lineText line = own)
    (shape : editor.buffer.text = kept ++ own ++ behind)
    (replaced : Text.Replaced everywhere pattern replacement own result count)
    (somePattern : pattern ≠ []) :
    ∃ changed,
      (substituteLine pattern replacement everywhere line).runOn editor =
          (.ok count, { editor with buffer := changed }) ∧
        changed.text = kept ++ result ++ behind := by
  obtain ⟨changed, accepted, text⟩ := Buffer.replaceEach_replaced replaced somePattern shape
  refine ⟨changed, ?_, text⟩
  unfold substituteLine
  rw [runOn_get_bind]
  dsimp only
  rw [starts, isOwn]
  change (replaceEach pattern.length replacement
      ((Text.replacedPlaces everywhere pattern own).reverse.map (kept.length + ·)) >>= fun _ =>
    pure (Text.replacedPlaces everywhere pattern own).length).runOn editor = _
  rw [runOn_bind_of_ok (replaceEach_runOn accepted), ← replaced.count_eq somePattern]
  rfl

/-- A substitution on the first lines replaces the pattern in them, whatever is behind them. -/
theorem substituteLines_runOn
    {earlier later : List (List Char)}
    {region : List Char}
    (shape : Text.lines text = earlier ++ later)
    (atEnd : later = [] → region = [])
    (present : editor.buffer.text = earlier.flatten ++ region)
    (somePattern : pattern ≠ [])
    (noBreak : Text.HasNoBreak pattern) :
    ∃ count result changed,
      (substituteLines pattern replacement everywhere
          (List.range earlier.length).reverse).runOn editor =
          (.ok count, { editor with buffer := changed }) ∧
        changed.text = result ++ region ∧
          Text.LinesReplaced everywhere pattern replacement earlier result count := by
  -- The induction is on the lines that are left; `region` is what has come of the others.
  induction earlier using List.reverseRecOn generalizing later region editor with
  | nil =>
      exact ⟨0, [], editor.buffer, rfl, present, .nil⟩
  | append_singleton earlier line inductionHypothesis =>
      rw [List.append_assoc, List.singleton_append] at shape
      have isText : editor.buffer.text = earlier.flatten ++ (line ++ region) := by
        rw [present, List.flatten_append, List.flatten_singleton, List.append_assoc]
      obtain ⟨longer, more, presentShape, sameOwn⟩ := Text.exists_line_before shape atEnd
      rw [← isText] at presentShape
      have starts := Buffer.lineStart_of_shape presentShape
      have isOwn := (Buffer.lineText_of_shape presentShape).trans sameOwn
      obtain ⟨own, number, ownReplaced⟩ :=
        Text.exists_replaced somePattern everywhere replacement (Text.withoutReturn line)
      obtain ⟨returns, whole, lineReplaced⟩ := ownReplaced.in_line somePattern noBreak
      have cutUp :
          editor.buffer.text =
            earlier.flatten ++ Text.withoutReturn line ++ (returns ++ region) := by
        rw [isText, List.append_assoc, ← List.append_assoc (Text.withoutReturn line), ← whole]
      obtain ⟨between, lastEnded, betweenText⟩ :=
        substituteLine_runOn starts isOwn cutUp ownReplaced somePattern
      have left : between.text = earlier.flatten ++ ((own ++ returns) ++ region) := by
        rw [betweenText, List.append_assoc, List.append_assoc]
      obtain ⟨count, result, changed, ended, changedText, replaced⟩ :=
        @inductionHypothesis { editor with buffer := between } _ _ shape nofun left
      refine ⟨number + count, result ++ (own ++ returns), changed, ?_, ?_, ?_⟩
      · rw [List.length_append, List.length_singleton, List.range_succ, List.reverse_append,
          List.reverse_singleton, List.singleton_append, substituteLines,
          runOn_bind_of_ok lastEnded, runOn_bind_of_ok ended]
        rfl
      · rw [changedText, ← List.append_assoc]
      · rw [Nat.add_comm]
        exact replaced.concat lineReplaced

/-- A substitution on all lines replaces the pattern in each of them. -/
theorem substituteAllLines_runOn
    (editor : Editor)
    (replacement : List Char)
    (everywhere : Bool)
    (somePattern : pattern ≠ [])
    (noBreak : Text.HasNoBreak pattern) :
    ∃ count changed,
      (substituteLines pattern replacement everywhere
          (List.range editor.buffer.lineCount).reverse).runOn editor =
          (.ok count, { editor with buffer := changed }) ∧
        Text.LinesReplaced everywhere pattern replacement (Text.lines editor.buffer.text)
          changed.text count := by
  have shape : Text.lines editor.buffer.text = Text.lines editor.buffer.text ++ [] := by
    rw [List.append_nil]
  have present :
      editor.buffer.text = (Text.lines editor.buffer.text).flatten ++ [] := by
    rw [Text.flatten_lines, List.append_nil]
  obtain ⟨count, result, changed, ended, isText, replaced⟩ :
      ∃ count result changed,
        (substituteLines pattern replacement everywhere
            (List.range editor.buffer.lineCount).reverse).runOn editor =
            (.ok count, { editor with buffer := changed }) ∧
          changed.text = result ++ [] ∧
            Text.LinesReplaced everywhere pattern replacement (Text.lines editor.buffer.text)
              result count :=
    substituteLines_runOn shape (fun _ => rfl) present somePattern noBreak
  rw [List.append_nil] at isText
  subst isText
  exact ⟨count, changed, ended, replaced⟩

/-- What is told of a substitution: how often the pattern was replaced, or that it is not there. -/
def substitutionMessage (pattern : List Char) (count : Nat) : String :=
  if count = 0 then
    "Pattern not found: " ++ String.ofList pattern
  else
    toString count ++ " substitution" ++ pluralEnding count

/-- A substitution that has replaced something tells how often. -/
theorem told_runOn
    (pattern : List Char)
    (count : Nat)
    (editor : Editor) :
    (if count = 0 then
      tellNotFound pattern
    else
      CommandM.tell (toString count ++ " substitution" ++ pluralEnding count)).runOn editor =
      (.ok (), editor.tell (substitutionMessage pattern count)) := by
  unfold substitutionMessage
  split <;> rfl

/-- A substitution in the whole document replaces the pattern in each line, and tells how often. -/
theorem substitute_runOn
    (replaced :
      Text.LinesReplaced everywhere pattern replacement (Text.lines editor.buffer.text) text
        count)
    (somePattern : pattern ≠ [])
    (noBreak : Text.HasNoBreak pattern) :
    ∃ changed,
      (substitute pattern replacement true everywhere).runOn editor =
          (.ok (), ({ editor with buffer := changed }).tell (substitutionMessage pattern count)) ∧
        changed.text = text := by
  have told := told_runOn pattern count
  unfold substitute
  rw [runOn_get_bind]
  dsimp only
  cases everywhere with
  | true =>
      obtain ⟨changed, accepted, isText⟩ :=
        Buffer.replaceAll_replaced (replaced.replaced noBreak) somePattern
      have ended :
          (CommandM.edit fun buffer => buffer.replaceAll pattern replacement).runOn editor =
            (.ok count, { editor with buffer := changed }) := by
        rw [runOn_edit, accepted]
      refine ⟨changed, ?_, isText⟩
      rw [if_pos ⟨rfl, rfl⟩, runOn_bind_of_ok ended]
      exact told _
  | false =>
      obtain ⟨number, changed, ended, lineByLine⟩ :=
        substituteAllLines_runOn editor replacement false somePattern noBreak
      obtain ⟨isText, rfl⟩ := replaced.unique lineByLine
      refine ⟨changed, ?_, isText⟩
      rw [if_neg (fun both => Bool.false_ne_true both.2), if_pos rfl, runOn_bind_of_ok ended]
      exact told _

end ChordEditor.Commands
