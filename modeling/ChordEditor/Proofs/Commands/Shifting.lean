import ChordEditor.Commands.Indentation
import ChordEditor.Proofs.Buffer.ListedLines
import ChordEditor.Proofs.Commands.Actions
import ChordEditor.Proofs.Commands.Pasting

namespace ChordEditor.Commands

/-!
# Lines shifted to the right and to the left

A line that is shifted to the right has spaces put in front, and these are what a shift to
the left by as many units takes away again, whatever the line is indented with.  A blank
line is not shifted to the right, but it is to the left, so it comes back only if there is
nothing in it.
-/

/-- A line with some units of spaces in front, unless it is blank. -/
def indented (tabWidth units : Nat) (line : List Char) : List Char :=
  if Text.isBlankText line then line else List.replicate (tabWidth * units) ' ' ++ line

/-- A line without the part of its indentation that is within some units. -/
def outdented (tabWidth units : Nat) (line : List Char) : List Char :=
  line.drop (charsWithin tabWidth (tabWidth * units) (Text.leadingBlank line))

/-- A line that is shifted to one side by some units. -/
def shifted (right : Bool) (tabWidth units : Nat) : List Char → List Char :=
  if right then indented tabWidth units else outdented tabWidth units

/-- The lines of a text, those of a block shifted to one side. -/
def blockShifted
    (right : Bool)
    (tabWidth units : Nat)
    (lines : LineRange)
    (own : List (List Char)) : List (List Char) :=
  own.mapIdx
    (Text.changedIn (shifted right tabWidth units) lines.first (lines.last + 1 - lines.first))

section Spaces

theorem isBlank_of_space
    {count : Nat}
    {c : Char}
    (isIn : c ∈ List.replicate count ' ') :
    Text.isBlank c = true := by
  rw [List.eq_of_mem_replicate isIn]
  rfl

theorem hasNoBreak_spaces (count : Nat) : Text.HasNoBreak (List.replicate count ' ') := by
  intro c isIn
  rw [List.eq_of_mem_replicate isIn]
  rfl

theorem leadingBlank_spaces_append
    (count : Nat)
    (line : List Char) :
    Text.leadingBlank (List.replicate count ' ' ++ line) =
      List.replicate count ' ' ++ Text.leadingBlank line :=
  List.takeWhile_append_of_pos fun _ => isBlank_of_space

end Spaces

section Cancelling

variable
  {tabWidth units : Nat}
  {line : List Char}

/-- Spaces that have just enough room are counted, and then what is within no room. -/
theorem charsWithin_spaces_append
    (tabWidth count : Nat)
    (indent : List Char) :
    charsWithin tabWidth count (List.replicate count ' ' ++ indent) =
      count + charsWithin tabWidth 0 indent := by
  induction count with
  | zero =>
      rw [List.replicate_zero, List.nil_append, Nat.zero_add]
  | succ count inductionHypothesis =>
      rw [List.replicate_succ, List.cons_append, charsWithin]
      simp only [Char.reduceEq, if_false, Nat.le_add_left, if_true, Nat.add_sub_cancel,
        inductionHypothesis]
      omega

section Tabs

variable (tabs : 0 < tabWidth)

include tabs

/-- Every character takes a column. -/
theorem charsWithin_zero (indent : List Char) : charsWithin tabWidth 0 indent = 0 := by
  cases indent with
  | nil =>
      rfl
  | cons c rest =>
      rw [charsWithin]
      split <;> simp [Nat.not_le_of_lt tabs]

/-- In the room of a tab there is always room for one character. -/
theorem charsWithin_pos
    {room : Nat}
    (someRoom : tabWidth ≤ room)
    {indent : List Char}
    (someIndent : indent ≠ []) :
    0 < charsWithin tabWidth room indent := by
  cases indent with
  | nil =>
      contradiction
  | cons c rest =>
      have fits : (if c = '\t' then tabWidth else 1) ≤ room := by
        split <;> omega
      rw [charsWithin, if_pos fits]
      exact Nat.succ_pos _

/-- A line that is not blank is as it was when it is shifted to the right and to the left. -/
theorem outdented_indented (someText : ¬ Text.isBlankText line = true) :
    outdented tabWidth units (indented tabWidth units line) = line := by
  have taken :
      charsWithin tabWidth (tabWidth * units)
          (Text.leadingBlank (List.replicate (tabWidth * units) ' ' ++ line)) =
        (List.replicate (tabWidth * units) ' ').length := by
    rw [leadingBlank_spaces_append, charsWithin_spaces_append, charsWithin_zero tabs,
      List.length_replicate, Nat.add_zero]
  rw [indented, if_neg someText, outdented, taken, List.drop_left]

/-- A blank line loses its first character at least. -/
theorem outdented_indented_blank
    (someUnits : 0 < units)
    (blank : Text.isBlankText line = true)
    (someBlank : line ≠ []) :
    outdented tabWidth units (indented tabWidth units line) ≠ line := by
  have someChar := List.length_pos_iff.mpr someBlank
  have whole := (Text.length_le_leadingBlank_iff line).mpr blank
  have someIndent : Text.leadingBlank line ≠ [] :=
    List.length_pos_iff.mp (Nat.lt_of_lt_of_le someChar whole)
  have room : tabWidth ≤ tabWidth * units := Nat.le_mul_of_pos_right tabWidth someUnits
  have someTaken := charsWithin_pos tabs room someIndent
  intro same
  have sameLength := congrArg List.length same
  rw [indented, if_pos blank, outdented, List.length_drop] at sameLength
  omega

/-- A line comes back exactly if it is not blank, or has nothing in it. -/
theorem outdented_indented_eq_iff (someUnits : 0 < units) :
    outdented tabWidth units (indented tabWidth units line) = line ↔
      (Text.isBlankText line = true → line = []) := by
  by_cases blank : Text.isBlankText line = true
  · by_cases nothing : line = []
    · subst nothing
      exact iff_of_true rfl fun _ => rfl
    · exact
        iff_of_false (outdented_indented_blank tabs someUnits blank nothing)
          fun empty => nothing (empty blank)
  · exact iff_of_true (outdented_indented tabs blank) fun isBlank => absurd isBlank blank

end Tabs

/-- A line of a block that is shifted there and back, or one outside. -/
theorem getElem?_blockShifted_back
    (lines : LineRange)
    (own : List (List Char))
    (number : Nat) :
    (blockShifted false tabWidth units lines
        (blockShifted true tabWidth units lines own))[number]? =
      own[number]?.map fun line =>
        if lines.first ≤ number ∧ number ≤ lines.last then
          outdented tabWidth units (indented tabWidth units line)
        else
          line := by
  have inBlock :
      (lines.first ≤ number ∧ number < lines.first + (lines.last + 1 - lines.first)) ↔
        lines.first ≤ number ∧ number ≤ lines.last := by
    omega
  rw [blockShifted, blockShifted, List.getElem?_mapIdx, List.getElem?_mapIdx, Option.map_map]
  congr 1
  funext line
  unfold Text.changedIn
  simp only [Function.comp_apply, inBlock]
  split <;> rfl

/-- A line comes back exactly if it is outside, not blank, or has nothing in it. -/
theorem getElem?_blockShifted_back_eq_iff
    (tabs : 0 < tabWidth)
    (someUnits : 0 < units)
    (lines : LineRange)
    (own : List (List Char))
    (number : Nat) :
    (blockShifted false tabWidth units lines
          (blockShifted true tabWidth units lines own))[number]? = own[number]? ↔
      (lines.first ≤ number →
        number ≤ lines.last →
          ∀ line ∈ own[number]?, Text.isBlankText line = true → line = []) := by
  rw [getElem?_blockShifted_back]
  cases own[number]? with
  | none =>
      exact iff_of_true rfl nofun
  | some line =>
      rw [Option.map_some, Option.some_inj]
      split
      · rename_i inBlock
        rw [outdented_indented_eq_iff tabs someUnits]
        exact
          ⟨fun kept _ _ _ isLine => by rwa [← Option.some_inj.mp isLine],
            fun kept => kept inBlock.1 inBlock.2 line rfl⟩
      · rename_i outside
        exact iff_of_true rfl fun starts stops => absurd ⟨starts, stops⟩ outside

end Cancelling

section Run

open CommandM

variable
  {editor : Editor}
  {own : List (List Char)}

/-- A line that is not there has nothing in it. -/
theorem lineText_of_not_listed
    {number : Nat}
    (hasLines : editor.buffer.HasLines own)
    (notThere : ¬ number < own.length) :
    editor.buffer.lineText number = [] := by
  rw [hasLines.lineText_eq_getD, List.getD_eq_getElem?_getD,
    List.getElem?_eq_none (Nat.le_of_not_lt notThere)]
  rfl

theorem indentLine_runOn
    (hasLines : editor.buffer.HasLines own)
    (number units : Nat) :
    ∃ changed,
      (indentLine number units).runOn editor = (.ok (), { editor with buffer := changed }) ∧
        changed.HasLines (own.modify number (indented editor.settings.tabWidth units)) := by
  unfold indentLine
  rw [runOn_get_bind]
  by_cases isLine : number < own.length
  · obtain ⟨earlier, line, later, rfl, rfl, modified⟩ := Text.exists_parts_of_lt isLine
    rw [modified, hasLines.lineText_eq, indented]
    by_cases blank : Text.isBlankText line = true
    · rw [if_pos blank, if_pos blank]
      exact ⟨editor.buffer, rfl, hasLines⟩
    · rw [if_neg blank, if_neg blank]
      obtain ⟨changed, inserted, changedHas⟩ :=
        hasLines.exists_inserted_front
          (hasNoBreak_spaces (editor.settings.tabWidth * units))
      refine ⟨changed, ?_, changedHas⟩
      rw [CommandM.insert, runOn_edit, inserted]
      rfl
  · rw [lineText_of_not_listed hasLines isLine, List.modify_eq_self (Nat.le_of_not_lt isLine)]
    exact ⟨editor.buffer, rfl, hasLines⟩

theorem outdentLine_runOn
    (hasLines : editor.buffer.HasLines own)
    (number units : Nat) :
    ∃ changed,
      (outdentLine number units).runOn editor = (.ok (), { editor with buffer := changed }) ∧
        changed.HasLines (own.modify number (outdented editor.settings.tabWidth units)) := by
  unfold outdentLine
  rw [runOn_get_bind]
  dsimp only
  by_cases isLine : number < own.length
  · obtain ⟨earlier, line, later, rfl, rfl, modified⟩ := Text.exists_parts_of_lt isLine
    rw [modified, hasLines.lineText_eq, outdented]
    have within :=
      charsWithin_le editor.settings.tabWidth (editor.settings.tabWidth * units)
        (Text.leadingBlank line)
    have indent := (List.takeWhile_prefix Text.isBlank (l := line)).length_le
    generalize charsWithin editor.settings.tabWidth (editor.settings.tabWidth * units)
      (Text.leadingBlank line) = count at within ⊢
    have front : (line.take count).length = count := by
      rw [List.length_take]
      exact Nat.min_eq_left (Nat.le_trans within indent)
    rw [← List.take_append_drop count line] at hasLines
    obtain ⟨changed, deleted, changedHas⟩ := hasLines.exists_deleted_front
    rw [front] at deleted
    refine ⟨changed, ?_, changedHas⟩
    rw [runOn_bind, CommandM.delete, runOn_edit, deleted]
    rfl
  · rw [lineText_of_not_listed hasLines isLine, List.modify_eq_self (Nat.le_of_not_lt isLine)]
    have starts := editor.buffer.lineStart_le number
    obtain ⟨changed, deleted, text⟩ :=
      @delete_runOn editor ⟨editor.buffer.lineStart number, editor.buffer.lineStart number⟩
        ⟨Nat.le_refl _, starts⟩
    refine ⟨changed, runOn_bind_of_ok deleted, hasLines.of_text_eq ?_⟩
    rw [text, List.take_append_drop]

/-- Changing the lines of a block one after the other changes them, and no other ones. -/
theorem foldl_modify_block
    (change : List Char → List Char)
    (first count : Nat)
    (own : List (List Char)) :
    (List.range' first count).foldl (fun own number => own.modify number change) own =
      own.mapIdx (Text.changedIn change first count) := by
  apply List.ext_getElem?
  intro number
  rw [List.getElem?_mapIdx]
  induction count generalizing first own with
  | zero =>
      rw [Text.changedIn_of_outside (by omega), Option.map_id_apply]
      rfl
  | succ count inductionHypothesis =>
      rw [List.range'_succ, List.foldl_cons, inductionHypothesis, List.getElem?_modify]
      cases own[number]? with
      | none =>
          rfl
      | some line =>
          rw [Option.map_eq_map, Option.map_some, Option.map_some, Option.map_some]
          unfold Text.changedIn
          by_cases isFirst : first = number
          · rw [if_neg (by omega), if_pos isFirst, if_pos (by omega)]
          · by_cases isOther : first + 1 ≤ number ∧ number < first + 1 + count
            · rw [if_pos isOther, if_neg isFirst, if_pos (by omega)]
            · rw [if_neg isOther, if_neg isFirst, if_neg (by omega)]

/-- Each turn of a shift changes one line. -/
theorem shiftLines_runOn
    (hasLines : editor.buffer.HasLines own)
    (right : Bool)
    (units : Nat)
    (numbers : List Nat) :
    ∃ changed,
      (numbers.forM fun line =>
          if right then indentLine line units else outdentLine line units).runOn editor =
          (.ok (), { editor with buffer := changed }) ∧
        changed.HasLines
          (numbers.foldl
            (fun own number => own.modify number (shifted right editor.settings.tabWidth units))
            own) := by
  induction numbers generalizing editor own with
  | nil =>
      exact ⟨editor.buffer, rfl, hasLines⟩
  | cons number numbers inductionHypothesis =>
      have turn :
          ∃ between,
            (if right then indentLine number units else outdentLine number units).runOn editor =
                (.ok (), { editor with buffer := between }) ∧
              between.HasLines
                (own.modify number (shifted right editor.settings.tabWidth units)) := by
        cases right with
        | true => exact indentLine_runOn hasLines number units
        | false => exact outdentLine_runOn hasLines number units
      obtain ⟨between, first, betweenHas⟩ := turn
      obtain ⟨changed, others, changedHas⟩ :=
        @inductionHypothesis { editor with buffer := between } _ betweenHas
      refine ⟨changed, ?_, changedHas⟩
      exact (runOn_bind_of_ok first).trans others

/-- A shift is accepted, and shifts the lines of its block by its units. -/
theorem shift_runOn
    (hasLines : editor.buffer.HasLines own)
    (right : Bool)
    (context : CommandContext) :
    ∃ left,
      (shift right context).runOn editor = (.ok (), left) ∧
        left.buffer.HasLines
          (blockShifted right editor.settings.tabWidth
            (if editor.mode.isVisual then context.count else 1)
            (editor.linesActedOn context.count) own) := by
  let lines := editor.linesActedOn context.count
  obtain ⟨changed, ended, changedHas⟩ :=
    shiftLines_runOn hasLines right (if editor.mode.isVisual then context.count else 1)
      (List.range' lines.first (lines.last + 1 - lines.first))
  rw [foldl_modify_block] at changedHas
  let normal : Editor := ({ editor with buffer := changed }).setMode .normal
  have sameBuffer : normal.buffer = changed :=
    (Editor.setMode_parts { editor with buffer := changed } .normal).1
  refine ⟨normal.setCursor (normal.buffer.firstNonBlank lines.first), ?_, ?_⟩
  · unfold shift forLines
    rw [runOn_get_bind]
    exact runOn_bind_of_ok ended
  · show normal.buffer.HasLines _
    rw [sameBuffer]
    exact changedHas

end Run

end ChordEditor.Commands
