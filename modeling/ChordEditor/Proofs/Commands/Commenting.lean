import ChordEditor.Commands.Comment
import ChordEditor.Proofs.Buffer.OwnText
import ChordEditor.Proofs.Commands.Working
import ChordEditor.Proofs.Text.ChangedLines

namespace ChordEditor.Commands

/-!
# Comments put in and taken away

A comment is changed in the own text of a line, which may end with a break that the own
text keeps.  Such a break is blank and no part of the marker, so the change is one of what
comes before it (`commented_append`), and the line keeps its end.  What the marker and
one blank are put in front of is found again by taking them away.
-/

/-- A text with its comment changed, or as it is if there is nothing to change. -/
def commented (marker : List Char) (change : CommentChange) (body : List Char) : List Char :=
  (commentLine? body marker change).getD body

/-- A text with a marker and a blank put in behind its indentation. -/
def marked (marker body : List Char) : List Char :=
  Text.leadingBlank body ++ marker ++ ' ' :: Text.trimStart body

/-- A text that loses a marker behind its indentation, and one blank behind that. -/
def unmarked (marker body : List Char) : List Char :=
  Text.leadingBlank body ++ withoutFirstSpace ((Text.trimStart body).drop marker.length)

/-- A line with the comment of its own text changed. -/
def commentedLine (marker : List Char) (change : CommentChange) (line : List Char) : List Char :=
  commented marker change (Text.withoutReturn line) ++
    line.drop (Text.withoutReturn line).length

variable
  {marker body ending : List Char}
  {change : CommentChange}

section Blanks

/-- Breaks behind a text that is not all blank are no part of its indentation. -/
theorem leadingBlank_append
    (someText : ¬ Text.isBlankText body = true)
    (ending : List Char) :
    Text.leadingBlank (body ++ ending) = Text.leadingBlank body ∧
      Text.trimStart (body ++ ending) = Text.trimStart body ++ ending := by
  induction body with
  | nil =>
      exact absurd rfl someText
  | cons c rest inductionHypothesis =>
      unfold Text.leadingBlank Text.trimStart at *
      by_cases blank : Text.isBlank c = true
      · have others : ¬ Text.isBlankText rest = true := by
          intro allBlank
          apply someText
          simpa [Text.isBlankText, blank] using allBlank
        obtain ⟨indent, trimmed⟩ := inductionHypothesis others
        simp [blank, indent, trimmed]
      · simp [blank]

theorem isBlankText_append_breaks
    (breaks : ∀ c ∈ ending, Text.isLineBreak c = true)
    (body : List Char) :
    Text.isBlankText (body ++ ending) = Text.isBlankText body := by
  have allBlank : ending.all Text.isBlank = true :=
    List.all_eq_true.mpr fun c isIn => Text.isBlank_of_isLineBreak (breaks c isIn)
  rw [Text.isBlankText, List.all_append, allBlank, Bool.and_true, Text.isBlankText]

/-- A marker without breaks begins before the breaks at the end, if it does. -/
theorem isPrefixOf_append_breaks
    (noBreak : Text.HasNoBreak marker)
    (breaks : ∀ c ∈ ending, Text.isLineBreak c = true)
    (body : List Char) :
    marker.isPrefixOf (body ++ ending) = marker.isPrefixOf body := by
  rw [Bool.eq_iff_iff, List.isPrefixOf_iff_prefix, List.isPrefixOf_iff_prefix]
  constructor
  · intro begins
    rcases List.prefix_or_prefix_of_prefix begins (List.prefix_append body ending) with
      inBody | ⟨rest, rfl⟩
    · exact inBody
    · cases rest with
      | nil =>
          simp
      | cons c rest =>
          obtain ⟨behind, goesOn⟩ := (List.prefix_append_right_inj body).mp begins
          have notBreak := noBreak c (by simp)
          rw [breaks c (by simp [← goesOn])] at notBreak
          contradiction
  · exact fun begins => begins.trans (List.prefix_append body ending)

theorem withoutFirstSpace_append_breaks
    (breaks : ∀ c ∈ ending, Text.isLineBreak c = true)
    (rest : List Char) :
    withoutFirstSpace (rest ++ ending) = withoutFirstSpace rest ++ ending := by
  cases rest with
  | nil =>
      cases ending with
      | nil =>
          rfl
      | cons c ending =>
          have isBreak := breaks c List.mem_cons_self
          have notSpace : c ≠ ' ' := by
            rintro rfl
            contradiction
          simp [withoutFirstSpace, notSpace]
  | cons c rest =>
      by_cases isSpace : c = ' '
      · subst isSpace
        rfl
      · simp [withoutFirstSpace, isSpace]

end Blanks

/-- What becomes of a text when its comment is changed. -/
theorem commented_eq (marker : List Char) (change : CommentChange) (body : List Char) :
    commented marker change body =
      if Text.isBlankText body ∨ marker.isEmpty then
        body
      else
        match change with
        | .comment => marked marker body
        | .uncomment =>
            if marker.isPrefixOf (Text.trimStart body) then unmarked marker body else body
        | .toggle =>
            if marker.isPrefixOf (Text.trimStart body) then
              unmarked marker body
            else
              marked marker body := by
  unfold commented commentLine?
  split
  · rfl
  · cases change with
    | comment | toggle => rfl
    | uncomment =>
        dsimp only
        split <;> rfl

/-- A comment is changed before the breaks at the end of a text. -/
theorem commented_append
    (noBreak : Text.HasNoBreak marker)
    (breaks : ∀ c ∈ ending, Text.isLineBreak c = true)
    (body : List Char)
    (change : CommentChange) :
    commented marker change (body ++ ending) = commented marker change body ++ ending := by
  rw [commented_eq, commented_eq, isBlankText_append_breaks breaks]
  by_cases nothing : Text.isBlankText body = true ∨ marker.isEmpty = true
  · rw [if_pos nothing, if_pos nothing]
  · obtain ⟨indent, trimmed⟩ := leadingBlank_append (fun blank => nothing (.inl blank)) ending
    have puts : marked marker (body ++ ending) = marked marker body ++ ending := by
      unfold marked
      rw [indent, trimmed]
      simp
    have takes (begins : marker.isPrefixOf (Text.trimStart body) = true) :
        unmarked marker (body ++ ending) = unmarked marker body ++ ending := by
      have fits := (List.isPrefixOf_iff_prefix.mp begins).length_le
      unfold unmarked
      rw [indent, trimmed, List.drop_append_of_le_length fits,
        withoutFirstSpace_append_breaks breaks, List.append_assoc]
    rw [if_neg nothing, if_neg nothing, puts, trimmed, isPrefixOf_append_breaks noBreak breaks]
    cases change with
    | comment => rfl
    | uncomment | toggle =>
        dsimp only
        split
        · exact takes (by assumption)
        · rfl

/-- A text without breaks has none when its comment is changed. -/
theorem commented_hasNoBreak
    (markerNoBreak : Text.HasNoBreak marker)
    (noBreak : Text.HasNoBreak body)
    (change : CommentChange) :
    Text.HasNoBreak (commented marker change body) := by
  have indent : Text.HasNoBreak (Text.leadingBlank body) := fun c isIn =>
    noBreak c ((List.takeWhile_prefix _).subset isIn)
  have trimmed : Text.HasNoBreak (Text.trimStart body) := fun c isIn =>
    noBreak c ((List.dropWhile_suffix _).subset isIn)
  have puts : Text.HasNoBreak (marked marker body) := by
    intro c isIn
    simp only [marked, List.mem_append, List.mem_cons] at isIn
    rcases isIn with (inIndent | inMarker) | rfl | inRest
    · exact indent c inIndent
    · exact markerNoBreak c inMarker
    · rfl
    · exact trimmed c inRest
  have takes : Text.HasNoBreak (unmarked marker body) := by
    intro c isIn
    rcases List.mem_append.mp isIn with inIndent | inRest
    · exact indent c inIndent
    · apply trimmed c
      apply (List.drop_suffix marker.length _).subset
      generalize (Text.trimStart body).drop marker.length = rest at inRest
      unfold withoutFirstSpace at inRest
      split at inRest
      · exact List.mem_cons_of_mem _ inRest
      · exact inRest
  rw [commented_eq]
  split
  · exact noBreak
  · cases change with
    | comment => exact puts
    | uncomment =>
        dsimp only
        split
        · exact takes
        · exact noBreak
    | toggle =>
        dsimp only
        split
        · exact takes
        · exact puts

/-- Breaks that are left in the own text of a line are at its end. -/
theorem breaks_of_isBreak
    (isEnding : Text.IsBreak ending ∨ ending = []) :
    ∀ c ∈ Text.withoutReturn ending, Text.isLineBreak c = true := by
  intro c isIn
  have inEnding := (Text.own_isPrefix ending).subset isIn
  rcases isEnding with (rfl | ⟨d, isBreak, rfl⟩) | rfl
  · simp only [List.mem_cons, List.not_mem_nil, or_false] at inEnding
    rcases inEnding with rfl | rfl <;> rfl
  · rw [List.mem_singleton.mp inEnding]
    exact isBreak
  · contradiction

/-- The comment of a line is changed before the break at its end. -/
theorem commentedLine_append
    (markerNoBreak : Text.HasNoBreak marker)
    (noBreak : Text.HasNoBreak body)
    (isEnding : Text.IsBreak ending ∨ ending = [])
    (change : CommentChange) :
    commentedLine marker change (body ++ ending) = commented marker change body ++ ending := by
  obtain ⟨returns, whole⟩ := Text.own_isPrefix ending
  have left : (body ++ ending).drop (body ++ Text.withoutReturn ending).length = returns := by
    have cut : body ++ ending = (body ++ Text.withoutReturn ending) ++ returns := by
      rw [List.append_assoc, whole]
    rw [cut, List.drop_left]
  unfold commentedLine
  rw [Text.withoutReturn_append noBreak, left,
    commented_append markerNoBreak (breaks_of_isBreak isEnding), List.append_assoc, whole]

/-- Changing the comments of lines leaves the breaks at their ends. -/
theorem commentedLine_keepsEnds
    (markerNoBreak : Text.HasNoBreak marker)
    (change : CommentChange) :
    Text.KeepsEnds (commentedLine marker change) :=
  fun _ _ noBreak isEnding =>
    ⟨_, commented_hasNoBreak markerNoBreak noBreak change,
      commentedLine_append markerNoBreak noBreak isEnding change⟩

/-- A line of which there is nothing but a LF has no comment to change. -/
theorem commentedLine_newline
    (markerNoBreak : Text.HasNoBreak marker)
    (change : CommentChange) :
    commentedLine marker change ['\n'] = ['\n'] := by
  have nothing : commented marker change [] = [] := by
    rw [commented_eq]
    exact if_pos (.inl rfl)
  have alone :=
    commentedLine_append markerNoBreak Text.hasNoBreak_nil (.inl (.inr ⟨'\n', rfl, rfl⟩)) change
  rwa [nothing] at alone

section Cancelling

variable (startsVisible : ∃ c rest, marker = c :: rest ∧ Text.isBlank c = false)

include startsVisible

/-- Behind the indentation there is the marker that was put in, for it begins with no blank. -/
theorem marked_parts (body : List Char) :
    Text.leadingBlank (marked marker body) = Text.leadingBlank body ∧
      Text.trimStart (marked marker body) = marker ++ ' ' :: Text.trimStart body := by
  obtain ⟨c, rest, rfl, visible⟩ := startsVisible
  have blank : ∀ c ∈ body.takeWhile Text.isBlank, Text.isBlank c = true :=
    List.all_eq_true.mp List.all_takeWhile
  unfold marked Text.leadingBlank Text.trimStart
  rw [List.append_assoc, List.takeWhile_append_of_pos blank, List.dropWhile_append_of_pos blank]
  simp [visible]

theorem unmarked_marked (body : List Char) : unmarked marker (marked marker body) = body := by
  obtain ⟨indent, trimmed⟩ := marked_parts startsVisible body
  unfold unmarked
  rw [indent, trimmed, List.drop_left]
  exact Text.leadingBlank_append_trimStart body

/-- A text with a marker put in is not blank, and begins with the marker. -/
theorem marked_isComment (body : List Char) :
    ¬ (Text.isBlankText (marked marker body) = true ∨ marker.isEmpty = true) ∧
      marker.isPrefixOf (Text.trimStart (marked marker body)) = true := by
  obtain ⟨_, trimmed⟩ := marked_parts startsVisible body
  refine ⟨?_, ?_⟩
  · obtain ⟨c, rest, rfl, visible⟩ := startsVisible
    simp [marked, Text.isBlankText, visible]
  · rw [trimmed, List.isPrefixOf_iff_prefix]
    exact List.prefix_append _ _

/-- What was commented is uncommented again. -/
theorem uncommented_commented (body : List Char) :
    commented marker .uncomment (commented marker .comment body) = body := by
  obtain ⟨something, begins⟩ := marked_isComment startsVisible body
  by_cases nothing : Text.isBlankText body = true ∨ marker.isEmpty = true
  · rw [commented_eq marker .comment, if_pos nothing, commented_eq, if_pos nothing]
  · rw [commented_eq marker .comment, if_neg nothing, commented_eq, if_neg something]
    dsimp only
    rw [if_pos begins]
    exact unmarked_marked startsVisible body

/-- What is no comment is as it was after its comment is toggled twice. -/
theorem toggled_toggled
    (notCommented : ¬ marker.isPrefixOf (Text.trimStart body) = true) :
    commented marker .toggle (commented marker .toggle body) = body := by
  obtain ⟨something, begins⟩ := marked_isComment startsVisible body
  by_cases nothing : Text.isBlankText body = true ∨ marker.isEmpty = true
  · rw [commented_eq marker .toggle body, if_pos nothing, commented_eq, if_pos nothing]
  · rw [commented_eq marker .toggle body, if_neg nothing]
    dsimp only
    rw [if_neg notCommented, commented_eq, if_neg something]
    dsimp only
    rw [if_pos begins]
    exact unmarked_marked startsVisible body

section Line

variable
  (markerNoBreak : Text.HasNoBreak marker)
  {text line : List Char}
  (isLine : line ∈ Text.lines text)

include markerNoBreak isLine

theorem uncommentedLine_commentedLine :
    commentedLine marker .uncomment (commentedLine marker .comment line) = line := by
  obtain ⟨body, ending, rfl, noBreak, isEnding⟩ := Text.exists_body_of_mem isLine
  rw [commentedLine_append markerNoBreak noBreak isEnding,
    commentedLine_append markerNoBreak (commented_hasNoBreak markerNoBreak noBreak _) isEnding,
    uncommented_commented startsVisible]

theorem toggledLine_toggledLine
    (notCommented : ¬ marker <+: Text.trimStart (Text.withoutReturn line)) :
    commentedLine marker .toggle (commentedLine marker .toggle line) = line := by
  obtain ⟨body, ending, rfl, noBreak, isEnding⟩ := Text.exists_body_of_mem isLine
  have bodyNotCommented : ¬ marker.isPrefixOf (Text.trimStart body) = true := by
    intro begins
    have someText : ¬ Text.isBlankText body = true := by
      intro blank
      obtain ⟨c, rest, rfl, visible⟩ := startsVisible
      have inTrimmed := (List.isPrefixOf_iff_prefix.mp begins).subset List.mem_cons_self
      have inBody : c ∈ body := (List.dropWhile_suffix _).subset inTrimmed
      rw [List.all_eq_true.mp blank c inBody] at visible
      contradiction
    apply notCommented
    rw [Text.withoutReturn_append noBreak, (leadingBlank_append someText _).2,
      ← List.isPrefixOf_iff_prefix,
      isPrefixOf_append_breaks markerNoBreak (breaks_of_isBreak isEnding)]
    exact begins
  rw [commentedLine_append markerNoBreak noBreak isEnding,
    commentedLine_append markerNoBreak (commented_hasNoBreak markerNoBreak noBreak _) isEnding,
    toggled_toggled startsVisible bodyNotCommented]

end Line

end Cancelling

section Run

open CommandM

variable {editor : Editor}

/-- The comment of one line is changed. -/
theorem commentOneLine_runOn
    (editor : Editor)
    (change : CommentChange)
    (number : Nat) :
    ∃ changed,
      (commentOneLine change number).runOn editor =
          (.ok (), { editor with buffer := changed }) ∧
        changed.text =
          ((Text.lines editor.buffer.text).modify number
            (commentedLine editor.grammar.commentMarker change)).flatten := by
  unfold commentOneLine
  rw [runOn_get_bind]
  dsimp only
  by_cases isLine : number < (Text.lines editor.buffer.text).length
  · obtain ⟨earlier, line, later, shape, rfl, modified⟩ := Text.exists_shape_of_lt isLine
    have isOwn := Buffer.lineText_of_shape shape
    rw [modified, commentedLine, commented, ← isOwn]
    cases found :
        commentLine? (editor.buffer.lineText earlier.length) editor.grammar.commentMarker
          change with
    | none =>
        refine ⟨editor.buffer, rfl, ?_⟩
        rw [Option.getD_none, isOwn,
          List.prefix_iff_eq_append.mp (Text.own_isPrefix line), ← shape, Text.flatten_lines]
    | some updated =>
        obtain ⟨changed, replaced, text⟩ := Buffer.exists_replaced_own isLine updated
        refine ⟨changed, runOn_replace replaced, ?_⟩
        rw [text, modified, Option.getD_some, isOwn]
  · have noLine := Nat.le_of_not_lt isLine
    rw [Buffer.lineText_of_not_exists noLine, List.modify_eq_self noLine, Text.flatten_lines]
    exact ⟨editor.buffer, rfl, rfl⟩

/-- The comments of some lines are changed one after the other. -/
theorem forM_commentOneLine_runOn
    (change : CommentChange)
    (numbers : List Nat) :
    ∃ changed,
      (numbers.forM (commentOneLine change)).runOn editor =
          (.ok (), { editor with buffer := changed }) ∧
        changed.text =
          Text.changeEach (commentedLine editor.grammar.commentMarker change)
            editor.buffer.text numbers := by
  induction numbers generalizing editor with
  | nil =>
      exact ⟨editor.buffer, rfl, rfl⟩
  | cons number numbers inductionHypothesis =>
      obtain ⟨between, first, betweenText⟩ := commentOneLine_runOn editor change number
      obtain ⟨changed, others, changedText⟩ :=
        @inductionHypothesis { editor with buffer := between }
      refine ⟨changed, ?_, ?_⟩
      · change (commentOneLine change number >>= fun _ =>
          numbers.forM (commentOneLine change)).runOn editor = _
        rw [runOn_bind, first]
        exact others
      · rw [changedText, betweenText]
        rfl

/-- The comments of the lines that a command acts on are changed, and of no other ones. -/
theorem commentLines_runOn
    (editor : Editor)
    (change : CommentChange)
    (context : CommandContext) :
    let lines := editor.linesActedOn context.count
    ∃ left,
      (commentLines change context).runOn editor = (.ok (), left) ∧
        left.buffer.text =
          Text.changeEach (commentedLine editor.grammar.commentMarker change)
            editor.buffer.text (List.range' lines.first (lines.last + 1 - lines.first)) := by
  intro lines
  obtain ⟨changed, ended, text⟩ :=
    @forM_commentOneLine_runOn editor change
      (List.range' lines.first (lines.last + 1 - lines.first))
  have sameBuffer := (Editor.setMode_parts { editor with buffer := changed } .normal).1
  refine
    ⟨(({ editor with buffer := changed }).setMode .normal).setCursor
      ((({ editor with buffer := changed }).setMode .normal).buffer.firstNonBlank lines.first),
      ?_, ?_⟩
  · unfold commentLines forLines
    rw [runOn_get_bind, runOn_bind, ended]
    rfl
  · show (({ editor with buffer := changed }).setMode .normal).buffer.text = _
    rw [sameBuffer]
    exact text

end Run

end ChordEditor.Commands
