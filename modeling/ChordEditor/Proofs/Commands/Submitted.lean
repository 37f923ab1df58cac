import ChordEditor.Commands.Line
import ChordEditor.Proofs.Commands.Actions
import ChordEditor.Proofs.Text.Occurrences

namespace ChordEditor.Commands

/-!
# Submitted commands are sure

No submitted command changes the mode, and none is refused.  A substitution replaces
occurrences from the last one to the first one, so that each of them is still in range
when its turn comes.
-/

open CommandM

variable {fixedMode : Prop} {editor : Editor}

theorem retabLine_sure
    (unit : Option Nat)
    (line width : Nat) :
    (retabLine unit line width).Sure fixedMode editor := by
  have indent := Text.length_leadingBlank_le (editor.buffer.lineText line)
  have within := editor.buffer.lineStart_add_lineText_le line
  unfold retabLine
  apply Sure.get_bind
  dsimp only
  split
  · exact .pure false
  · refine (Sure.replace ⟨?_, ?_⟩ _).followed fun _ _ => .pure true
    · exact Nat.le_add_right _ _
    · dsimp only
      omega

theorem retabFrom_sure
    (unit : Option Nat)
    (line : Nat)
    (widths : List Nat) :
    (retabFrom unit line widths).Sure fixedMode editor := by
  induction widths generalizing line editor with
  | nil =>
      exact .pure 0
  | cons width widths inductionHypothesis =>
      apply (retabLine_sure unit line width).followed
      intro changed after
      exact (inductionHypothesis (line + 1)).followed fun _ _ => .pure _

/-- Replacing pieces that do not overlap, from the last one to the first one, is sure. -/
theorem replaceEach_sure
    {length : Nat}
    {replacement : List Char}
    {places : List Nat}
    (apart : places.Pairwise fun later earlier => earlier + length ≤ later)
    (inRange : ∀ place ∈ places, place + length ≤ editor.buffer.length) :
    (replaceEach length replacement places).Sure fixedMode editor := by
  -- The induction is on the places that are left; those are before the piece just replaced,
  -- so that its new length moves none of them.
  induction places generalizing editor with
  | nil =>
      exact .pure ()
  | cons place places inductionHypothesis =>
      obtain ⟨before, restApart⟩ := List.pairwise_cons.mp apart
      have placeInRange := inRange place List.mem_cons_self
      apply (Sure.replace ⟨Nat.le_add_right place length, placeInRange⟩ replacement).bind
      intro _ after ended
      obtain ⟨removed, replaced⟩ := replace_ok ended
      have asLong := Buffer.length_of_replace replaced
      dsimp only at asLong
      apply inductionHypothesis restApart
      intro earlier isEarlier
      have isBefore := before earlier isEarlier
      omega

/-- Replacing occurrences on a line is sure. -/
theorem substituteLine_sure
    (pattern replacement : List Char)
    (everywhere : Bool)
    (line : Nat) :
    (substituteLine pattern replacement everywhere line).Sure fixedMode editor := by
  have within := editor.buffer.lineStart_add_lineText_le line
  unfold substituteLine
  apply Sure.get_bind
  dsimp only
  have found : (if everywhere = true then
      Text.occurrences pattern (editor.buffer.lineText line)
    else (Text.occurrences pattern (editor.buffer.lineText line)).take 1).Sublist
      (Text.occurrences pattern (editor.buffer.lineText line)) := by
    split
    · exact List.Sublist.refl _
    · exact List.take_sublist _ _
  apply (replaceEach_sure ?_ ?_).followed fun _ _ => .pure _
  · rw [List.pairwise_map, List.pairwise_reverse]
    apply ((Text.occurrences_apart _ _).sublist found).imp
    intro earlier later apart
    omega
  · intro place isPlace
    obtain ⟨column, isColumn, rfl⟩ := List.mem_map.mp isPlace
    have bounds := Text.occurrences_bounds (found.subset (List.mem_reverse.mp isColumn))
    omega

theorem substituteLines_sure
    (pattern replacement : List Char)
    (everywhere : Bool)
    (lines : List Nat) :
    (substituteLines pattern replacement everywhere lines).Sure fixedMode editor := by
  induction lines generalizing editor with
  | nil =>
      exact .pure 0
  | cons line lines inductionHypothesis =>
      apply (substituteLine_sure pattern replacement everywhere line).followed
      intro count after
      exact inductionHypothesis.followed fun _ _ => .pure _

theorem substitution_told
    (pattern : List Char)
    (count : Nat) :
    (if count = 0 then
      tellNotFound pattern
    else
      CommandM.tell (toString count ++ " substitution" ++ pluralEnding count)).Sure
        fixedMode editor := by
  split
  · exact .tell _
  · exact .tell _

/-- A substitution is sure. -/
theorem substitute_sure
    (pattern replacement : List Char)
    (wholeDocument everywhere : Bool) :
    (substitute pattern replacement wholeDocument everywhere).Sure fixedMode editor := by
  unfold substitute
  apply Sure.get_bind
  dsimp only
  split
  · have tidy :
        (CommandM.edit fun buffer => buffer.replaceAll pattern replacement).Tidy
          fixedMode editor :=
      .edit fun _ _ replaced => Buffer.performs_of_replaceAll replaced
    exact (Sure.edit tidy (Buffer.replaceAll_accepted ..)).followed fun count _ =>
      substitution_told pattern count
  · split
    · exact (substituteLines_sure _ _ _ _).followed fun count _ =>
        substitution_told pattern count
    · exact (substituteLine_sure _ _ _ _).followed fun count _ =>
        substitution_told pattern count

theorem searchTerm_sure (term : List Char) : (searchTerm term).Sure fixedMode editor := by
  apply (changeSearch_sure _).followed
  intro _ after
  apply Sure.get_bind
  split
  · exact .pure ()
  · split
    · exact .tell _
    · dsimp only
      split
      · exact (Sure.setCursor _).followed fun _ _ => tellMatches_sure term
      · exact (Sure.pure ()).followed fun _ _ => tellMatches_sure term

/-- Every submitted command is sure. -/
theorem runLine_sure (command : LineCommand) : (runLine command).Sure fixedMode editor := by
  cases command with
  | empty => exact .pure ()
  | write | quit | tabNew | tabClose | tabOnly => exact .request _
  | writeQuit => exact (Sure.request _).followed fun _ _ => .request _
  | retab => exact (Sure.get_bind (retabFrom_sure _ _ _)).followed fun _ _ => .tell _
  | gotoLine line => exact .change ⟨rfl, rfl, rfl, rfl⟩ rfl fun _ => rfl
  | search term => exact searchTerm_sure term
  | substitute pattern replacement wholeDocument everywhere =>
      exact substitute_sure pattern replacement wholeDocument everywhere
  | unknown text => exact .tell _

end ChordEditor.Commands
