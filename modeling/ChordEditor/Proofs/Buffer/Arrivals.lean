import ChordEditor.Proofs.Buffer.LineOrder
import ChordEditor.Proofs.Buffer.WordAt

namespace ChordEditor

/-!
# Where motions and spans arrive

Motions stay within the text (`Motion.target_le`), and what operators act on, spans of
characters and of whole lines, are ranges of the text.
-/

namespace Motion

theorem runLength_le
    (charClass : Text.CharClass)
    (text : List Char) :
    runLength charClass text ≤ text.length :=
  (List.takeWhile_prefix _).length_le

theorem wordForwardFrom_le
    {text : List Char}
    {place : Nat}
    (inText : place ≤ text.length) :
    wordForwardFrom text place ≤ text.length := by
  have cut := List.length_drop (i := place) (l := text)
  unfold wordForwardFrom
  split
  · exact Nat.le_refl _
  · rename_i c rest ahead
    rw [ahead] at cut
    dsimp only
    generalize isWord :
      (if Text.CharClass.of c = .whitespace then 0
        else runLength (.of c) (c :: rest)) = word
    have wordInText : word ≤ (c :: rest).length := by
      rw [← isWord]
      split
      · exact Nat.zero_le _
      · exact runLength_le _ _
    have gapInText := runLength_le .whitespace ((c :: rest).drop word)
    rw [List.length_drop] at gapInText
    omega

/-- Within the text the step to the end of a word stays there and does not go backward. -/
theorem wordEndFrom_between
    {text : List Char}
    {place : Nat}
    (inside : place < text.length) :
    place ≤ wordEndFrom text place ∧ wordEndFrom text place < text.length := by
  have cut := List.length_drop (i := place + 1) (l := text)
  unfold wordEndFrom
  dsimp only
  generalize runLength .whitespace (text.drop (place + 1)) = gap
  have rest := List.length_drop (i := gap) (l := text.drop (place + 1))
  split
  · omega
  · rename_i c more ahead
    have word := runLength_le (.of c) (c :: more)
    rw [ahead] at rest
    rw [List.length_cons] at rest word
    omega

/-- From the last character on, the step to the end of a word goes to the last character. -/
theorem wordEndFrom_of_last
    {text : List Char}
    {place : Nat}
    (last : text.length ≤ place + 1) :
    wordEndFrom text place = text.length - 1 := by
  simp [wordEndFrom, List.drop_eq_nil_of_le last]

theorem wordEndFrom_le
    (text : List Char)
    (place : Nat) :
    wordEndFrom text place ≤ text.length := by
  by_cases inside : place < text.length
  · exact Nat.le_of_lt (wordEndFrom_between inside).2
  · rw [wordEndFrom_of_last (Nat.le_succ_of_le (Nat.le_of_not_lt inside))]
    exact Nat.sub_le _ _

/-- The step to the start of a word does not go forward. -/
theorem wordBackwardFrom_le
    (text : List Char)
    (place : Nat) :
    wordBackwardFrom text place ≤ place := by
  unfold wordBackwardFrom
  split
  · exact Nat.zero_le _
  · rename_i c rest behind
    have shorter :
        (c :: rest).length ≤ (text.take place).reverse.length := by
      rw [← behind]
      exact (List.dropWhile_suffix _).length_le
    rw [List.length_reverse, List.length_take, List.length_cons] at shorter
    omega

/-- What each step keeps, any number of steps keeps. -/
theorem iterate_keeps
    {step : Nat → Nat}
    {kept : Nat → Prop}
    (keeps : ∀ place, kept place → kept (step place))
    (count : Nat)
    {place : Nat}
    (atStart : kept place) :
    kept (iterate step count place) := by
  induction count generalizing place with
  | zero =>
      exact atStart
  | succ count inductionHypothesis =>
      exact inductionHypothesis (keeps place atStart)

/-- Steps that stay within a bound stay there when they are repeated. -/
theorem iterate_le
    {step : Nat → Nat}
    {bound : Nat}
    (stays : ∀ place, place ≤ bound → step place ≤ bound)
    (count : Nat)
    {place : Nat}
    (atStart : place ≤ bound) :
    iterate step count place ≤ bound :=
  iterate_keeps stays count atStart

/-- A character that is found on a line is one of the line's. -/
theorem findInLine?_lt
    {line : List Char}
    {column count found : Nat}
    {target : Char}
    {backward : Bool}
    (isFound : findInLine? line column target count backward = some found) :
    found < line.length := by
  have among : found ∈ columnsOf target line := by
    unfold findInLine? at isFound
    split at isFound
    · have isIn := List.mem_of_getElem? isFound
      exact (List.mem_filter.mp (List.mem_reverse.mp isIn)).1
    · have isIn := List.mem_of_getElem? isFound
      exact (List.mem_filter.mp isIn).1
  exact List.mem_range.mp (List.mem_filter.mp among).1

/-- Motions arrive within the text. -/
theorem target_le
    (motion : Motion)
    (buffer : Buffer)
    (place : Nat)
    (args : MotionArgs) :
    motion.target buffer place args ≤ buffer.length := by
  have inText := buffer.clamp_le place
  unfold target
  dsimp only
  generalize buffer.clamp place = place at inText
  generalize buffer.lineOf place = line
  cases motion with
  | left => exact Nat.le_trans (Nat.sub_le _ _) inText
  | right => exact Nat.le_trans (Nat.min_le_right _ _) (buffer.lineEnd_le line)
  | up | down | jumpUp | jumpDown => exact buffer.offsetAt_le _ _
  | lineStart => exact buffer.lineStart_le line
  | lineEnd => exact buffer.lineEnd_le line
  | lastChar =>
      exact Nat.max_le.mpr
        ⟨Nat.le_trans (Nat.sub_le _ _) (buffer.lineEnd_le line), buffer.lineStart_le line⟩
  | firstNonBlank => exact buffer.firstNonBlank_le line
  | wordForward =>
      exact iterate_le (fun _ inText => wordForwardFrom_le inText) _ inText
  | wordEnd =>
      exact iterate_le (fun place _ => wordEndFrom_le buffer.text place) _ inText
  | wordBackward =>
      exact
        iterate_le (fun place inText => Nat.le_trans (wordBackwardFrom_le _ place) inText) _
          inText
  | findChar backward =>
      dsimp only
      split
      · exact inText
      · split
        · exact inText
        · rename_i found isFound
          have onLine := findInLine?_lt isFound
          have within := buffer.lineStart_add_lineText_le line
          omega
  | documentStart =>
      dsimp only
      split
      · exact Nat.zero_le _
      · exact buffer.firstNonBlank_le _
  | documentEnd =>
      dsimp only
      split
      · exact Nat.le_refl _
      · exact buffer.firstNonBlank_le _

theorem linesCovered_ordered
    (motion : Motion)
    (buffer : Buffer)
    (place : Nat)
    (args : MotionArgs) :
    (motion.linesCovered buffer place args).first ≤
      (motion.linesCovered buffer place args).last := by
  apply buffer.lineOf_mono
  omega

theorem operatorEnd_le
    (motion : Motion)
    {buffer : Buffer}
    {place arrival : Nat}
    (placeInText : place ≤ buffer.length)
    (arrivalInText : arrival ≤ buffer.length) :
    motion.operatorEnd buffer place arrival ≤ buffer.length := by
  unfold operatorEnd
  dsimp only
  generalize isStop :
    (if motion.isInclusive = true ∧ arrival ≥ place ∧ arrival < buffer.length then
      arrival + 1
    else
      arrival) = stop
  have stopInText : stop ≤ buffer.length := by
    rw [← isStop]
    split
    · rename_i inclusive
      exact inclusive.2.2
    · exact arrivalInText
  split
  · exact Nat.max_le.mpr ⟨buffer.lineEnd_le _, placeInText⟩
  · exact stopInText

/-- The span of a motion that does not take whole lines. -/
theorem operatorSpan_of_charwise
    {motion : Motion}
    {buffer : Buffer}
    {place : Nat}
    (charwise : motion.isLinewise = false)
    (inText : place ≤ buffer.length)
    (args : MotionArgs) :
    motion.operatorSpan buffer place args =
      let stop := motion.operatorEnd buffer place (motion.target buffer place args)
      ⟨min place stop, max place stop⟩ := by
  unfold operatorSpan
  dsimp only
  rw [Buffer.clamp_of_le inText, charwise]
  rfl

end Motion

namespace Span

/-- Whether a span is a range of a text. -/
structure IsRangeOf (span : Span) (buffer : Buffer) : Prop where
  ordered : span.start ≤ span.stop
  inText : span.stop ≤ buffer.length

end Span

theorem Buffer.lineSpan_isRange
    (buffer : Buffer)
    {first last : Nat}
    (ordered : first ≤ last) :
    (buffer.lineSpan first last).IsRangeOf buffer := by
  unfold Buffer.lineSpan
  dsimp only
  split
  · exact ⟨buffer.lineStart_mono (by omega), buffer.lineStart_le _⟩
  · split
    · exact ⟨buffer.lineEnd_le _, Nat.le_refl _⟩
    · exact ⟨Nat.zero_le _, Nat.le_refl _⟩

theorem Motion.operatorSpan_isRange
    (motion : Motion)
    (buffer : Buffer)
    (place : Nat)
    (args : MotionArgs) :
    (motion.operatorSpan buffer place args).IsRangeOf buffer := by
  have inText := buffer.clamp_le place
  unfold Motion.operatorSpan
  dsimp only
  split
  · exact buffer.lineSpan_isRange (motion.linesCovered_ordered buffer _ args)
  · have stop := motion.operatorEnd_le inText (motion.target_le buffer (buffer.clamp place) args)
    constructor
    · dsimp only
      omega
    · exact Nat.max_le.mpr ⟨inText, stop⟩

theorem Buffer.wordSpan_isRange
    {buffer : Buffer}
    {place : Nat}
    {span : Span}
    (found : buffer.wordSpan? place = some span) :
    span.IsRangeOf buffer := by
  have isWord := Buffer.wordSpan_isWord found
  exact ⟨Nat.le_of_lt isWord.someChar, isWord.inText⟩

end ChordEditor
