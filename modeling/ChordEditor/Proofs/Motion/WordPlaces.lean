import Mathlib.Logic.Function.Iterate
import Mathlib.Order.Bounds.Defs
import ChordEditor.Proofs.Motion.Words

namespace ChordEditor.Motion

/-!
# Starts and ends of words

A word is a longest run of characters that are not blank and of one class.  Where a word
starts and where it ends is told here from a character and its neighbour, without any
scan.  A word motion goes to the nearest of these places, and a count repeats that
(`target_word_places`).
-/

/-- The class of the character at a place, if there is one. -/
def classAt?
    (text : List Char)
    (place : Nat) : Option Text.CharClass :=
  text[place]?.map .of

/-- A word starts at a place: the character before it is of another class. -/
structure IsWordStart
    (text : List Char)
    (place : Nat) : Prop where
  inText : place < text.length
  notBlank : classAt? text place ≠ some .whitespace
  opens : place = 0 ∨ classAt? text (place - 1) ≠ classAt? text place

/-- A word ends with the character at a place: the next one is of another class. -/
structure IsWordEnd
    (text : List Char)
    (place : Nat) : Prop where
  inText : place < text.length
  notBlank : classAt? text place ≠ some .whitespace
  closes : place + 1 = text.length ∨ classAt? text (place + 1) ≠ classAt? text place

/-- The least of some places, or another place if there are none of them. -/
def IsLeastOr
    (places : Set Nat)
    (otherwise arrival : Nat) : Prop :=
  IsLeast places arrival ∨ (∀ place, place ∉ places) ∧ arrival = otherwise

/-- The greatest of some places, or another place if there are none of them. -/
def IsGreatestOr
    (places : Set Nat)
    (otherwise arrival : Nat) : Prop :=
  IsGreatest places arrival ∨ (∀ place, place ∉ places) ∧ arrival = otherwise

/-! ## Runs of one class -/

theorem classAt?_eq_head?
    (text : List Char)
    (place : Nat) :
    classAt? text place = (text.drop place).head?.map .of := by
  rw [classAt?, List.head?_drop]

theorem classAt?_drop
    (text : List Char)
    (place index : Nat) :
    classAt? (text.drop place) index = classAt? text (place + index) := by
  rw [classAt?, classAt?, List.getElem?_drop]

/-- A text that is read backward from a place. -/
theorem classAt?_reverse_take
    {text : List Char}
    {stop index : Nat}
    (inText : stop ≤ text.length)
    (inside : index < stop) :
    classAt? (text.take stop).reverse index = classAt? text (stop - 1 - index) := by
  have length : (text.take stop).length = stop := by
    rw [List.length_take, Nat.min_eq_left inText]
  rw [classAt?, classAt?, List.getElem?_reverse (by omega), length,
    List.getElem?_take_of_lt (by omega)]

/-- The run at the start of a text has one class, and what follows is of another one. -/
theorem runLength_isRun
    (charClass : Text.CharClass)
    (text : List Char) :
    (∀ index < runLength charClass text, classAt? text index = some charClass) ∧
      classAt? text (runLength charClass text) ≠ some charClass := by
  induction text with
  | nil =>
      simp [runLength, classAt?]
  | cons c rest inductionHypothesis =>
      by_cases same : Text.CharClass.of c = charClass
      · have longer : runLength charClass (c :: rest) = runLength charClass rest + 1 := by
          simp [runLength, same]
        rw [longer]
        refine ⟨fun index inside => ?_, inductionHypothesis.2⟩
        cases index with
        | zero =>
            simp [classAt?, same]
        | succ index =>
            exact inductionHypothesis.1 index (Nat.lt_of_succ_lt_succ inside)
      · have none : runLength charClass (c :: rest) = 0 := by
          simp [runLength, same]
        rw [none]
        refine ⟨fun index inside => absurd inside (Nat.not_lt_zero index), ?_⟩
        simpa [classAt?] using same

/-- The run from a place on. -/
theorem runLength_drop_isRun
    (charClass : Text.CharClass)
    (text : List Char)
    (place : Nat) :
    (∀ between, place ≤ between → between < place + runLength charClass (text.drop place) →
        classAt? text between = some charClass) ∧
      classAt? text (place + runLength charClass (text.drop place)) ≠ some charClass := by
  obtain ⟨same, stops⟩ := runLength_isRun charClass (text.drop place)
  constructor
  · intro between behind inside
    obtain ⟨index, rfl⟩ := Nat.exists_eq_add_of_le behind
    rw [← classAt?_drop]
    exact same index (Nat.lt_of_add_lt_add_left inside)
  · rw [← classAt?_drop]
    exact stops

/-- The run that ends before a place. -/
theorem runLength_take_isRun
    (charClass : Text.CharClass)
    {text : List Char}
    {stop : Nat}
    (inText : stop ≤ text.length) :
    let start := stop - runLength charClass (text.take stop).reverse
    (∀ between, start ≤ between → between < stop →
        classAt? text between = some charClass) ∧
      (start = 0 ∨ classAt? text (start - 1) ≠ some charClass) := by
  intro start
  have within := runLength_le charClass (text.take stop).reverse
  rw [List.length_reverse, List.length_take, Nat.min_eq_left inText] at within
  obtain ⟨same, stops⟩ := runLength_isRun charClass (text.take stop).reverse
  constructor
  · intro between behind inside
    have read := same (stop - 1 - between) (by omega)
    rw [classAt?_reverse_take inText (by omega)] at read
    rwa [show stop - 1 - (stop - 1 - between) = between by omega] at read
  · rcases Nat.eq_zero_or_pos start with none | some
    · exact .inl none
    · right
      rw [classAt?_reverse_take inText (by omega)] at stops
      rwa [show start - 1 = stop - 1 - runLength charClass (text.take stop).reverse by omega]

/-! ## One step -/

section Step

variable {text : List Char} {place : Nat}

/-- A place of a class is a place of the text. -/
theorem lt_length_of_classAt?
    {charClass : Text.CharClass}
    (isClass : classAt? text place = some charClass) :
    place < text.length := by
  obtain ⟨c, found, _⟩ := Option.map_eq_some_iff.mp isClass
  exact (List.getElem?_eq_some_iff.mp found).1

theorem classAt?_of_lt (inText : place < text.length) :
    classAt? text place = some (.of text[place]) := by
  rw [classAt?, List.getElem?_eq_getElem inText]
  rfl

/-- No word starts at a place behind one of the same class. -/
theorem not_isWordStart_of_same
    (behind : 0 < place)
    (same : classAt? text (place - 1) = classAt? text place) :
    ¬ IsWordStart text place := by
  intro isStart
  rcases isStart.opens with first | differs
  · omega
  · exact differs same

/-- A place that is on a word is on a run of its class. -/
theorem wordStop_of_word
    {charClass : Text.CharClass}
    (isClass : classAt? text place = some charClass)
    (isWord : charClass ≠ .whitespace) :
    wordStop text place = place + runLength charClass (text.drop place) := by
  rw [classAt?_eq_head?] at isClass
  unfold wordStop
  cases ahead : text.drop place with
  | nil =>
      simp [ahead] at isClass
  | cons c rest =>
      obtain rfl : Text.CharClass.of c = charClass := by
        simpa [ahead] using isClass
      rw [wordAhead, if_neg isWord, runLength]

/-- On a blank there is no word to go over. -/
theorem wordStop_of_blank (isBlank : classAt? text place = some .whitespace) :
    wordStop text place = place := by
  rw [classAt?_eq_head?] at isBlank
  unfold wordStop
  cases ahead : text.drop place with
  | nil =>
      rfl
  | cons c rest =>
      have blank : Text.CharClass.of c = .whitespace := by
        simpa [ahead] using isBlank
      rw [wordAhead, if_pos blank]
      rfl

/-- Where the blanks from a place on end, the place itself if there are none. -/
def blankStop
    (text : List Char)
    (place : Nat) : Nat :=
  place + runLength .whitespace (text.drop place)

theorem blankStop_isStop
    (text : List Char)
    (place : Nat) :
    place ≤ blankStop text place ∧
      (∀ between, place ≤ between → between < blankStop text place →
        classAt? text between = some .whitespace) ∧
      classAt? text (blankStop text place) ≠ some .whitespace :=
  ⟨Nat.le_add_right _ _, runLength_drop_isRun .whitespace text place⟩

/-- Where the blanks before a place start, the place itself if there are none. -/
def blankStart
    (text : List Char)
    (place : Nat) : Nat :=
  place - runLength .whitespace (text.take place).reverse

/-- The step to the next word goes over the word and then over blanks. -/
theorem wordForwardFrom_eq_blankStop (inText : place ≤ text.length) :
    wordForwardFrom text place = blankStop text (wordStop text place) := by
  rw [wordForwardFrom_eq inText, ← runLength_whitespace]
  rfl

/-- No word starts on the way to where the step to the next word arrives. -/
theorem wordForwardFrom_le_of_isWordStart
    {next : Nat}
    (isStart : IsWordStart text next)
    (behind : place < next) :
    wordForwardFrom text place ≤ next := by
  have isNext := isStart.inText
  have inText : place < text.length := by
    omega
  have isClass := classAt?_of_lt inText
  obtain ⟨_, blank, _⟩ := blankStop_isStop text (wordStop text place)
  rw [wordForwardFrom_eq_blankStop (Nat.le_of_lt inText)]
  apply Nat.le_of_not_lt
  intro before
  by_cases inWord : next < wordStop text place
  · have isWord : Text.CharClass.of text[place] ≠ .whitespace := by
      intro isBlank
      rw [isBlank] at isClass
      rw [wordStop_of_blank isClass] at inWord
      omega
    rw [wordStop_of_word isClass isWord] at inWord
    have same := (runLength_drop_isRun (.of text[place]) text place).1
    have sameNext := same next (Nat.le_of_lt behind) inWord
    have samePrevious := same (next - 1) (by omega) (by omega)
    exact not_isWordStart_of_same (by omega) (samePrevious.trans sameNext.symm) isStart
  · exact isStart.notBlank (blank next (Nat.le_of_not_lt inWord) before)

/-- Within the text the step to the next word arrives where one starts. -/
theorem isWordStart_wordForwardFrom
    (inText : place ≤ text.length)
    (inside : wordForwardFrom text place < text.length) :
    IsWordStart text (wordForwardFrom text place) ∧ place < wordForwardFrom text place := by
  obtain ⟨overWord, blank, notBlank⟩ := blankStop_isStop text (wordStop text place)
  have fromPlace := le_wordStop text place
  rw [wordForwardFrom_eq_blankStop inText] at inside ⊢
  generalize blankStop text (wordStop text place) = arrival at *
  have isClass := classAt?_of_lt (show place < text.length by omega)
  have opensBehindBlank (someBlank : wordStop text place < arrival) :
      classAt? text (arrival - 1) ≠ classAt? text arrival := by
    rw [blank (arrival - 1) (by omega) (by omega)]
    exact notBlank.symm
  -- What is left right before the arrival is a blank, or else the word itself.
  by_cases isBlank : Text.CharClass.of text[place] = .whitespace
  · rw [isBlank] at isClass
    have atPlace := wordStop_of_blank isClass
    have moves : place ≠ arrival := by
      rintro rfl
      exact notBlank isClass
    exact ⟨⟨inside, notBlank, .inr (opensBehindBlank (by omega))⟩, by omega⟩
  · have isStop := wordStop_of_word isClass isBlank
    obtain ⟨same, stops⟩ := runLength_drop_isRun (.of text[place]) text place
    rw [← isStop] at same stops
    have moves : place ≠ wordStop text place := by
      intro stays
      rw [← stays] at stops
      exact stops isClass
    refine ⟨⟨inside, notBlank, .inr ?_⟩, by omega⟩
    rcases Nat.eq_or_lt_of_le overWord with noBlank | someBlank
    · rw [← noBlank, same (wordStop text place - 1) (by omega) (by omega)]
      exact stops.symm
    · exact opensBehindBlank someBlank

/-- The step to the next word goes to the first start of a word behind the place. -/
theorem wordForwardFrom_isLeastOr (inText : place ≤ text.length) :
    IsLeastOr {next | IsWordStart text next ∧ place < next} text.length
      (wordForwardFrom text place) := by
  rcases Nat.eq_or_lt_of_le (wordForwardFrom_le inText) with atEnd | inside
  · right
    refine ⟨?_, atEnd⟩
    rintro next ⟨isStart, behind⟩
    have notBefore := wordForwardFrom_le_of_isWordStart isStart behind
    rw [atEnd] at notBefore
    exact absurd isStart.inText (Nat.not_lt_of_le notBefore)
  · left
    refine ⟨isWordStart_wordForwardFrom inText inside, ?_⟩
    rintro next ⟨isStart, behind⟩
    exact wordForwardFrom_le_of_isWordStart isStart behind

/-- The step to the end of a word goes over blanks and then to the end of the run. -/
theorem wordEndFrom_eq
    (text : List Char)
    (place : Nat) :
    wordEndFrom text place =
      match classAt? text (blankStop text (place + 1)) with
      | none => text.length - 1
      | some charClass =>
          blankStop text (place + 1) +
            runLength charClass (text.drop (blankStop text (place + 1))) - 1 := by
  unfold wordEndFrom
  dsimp only
  rw [List.drop_drop, classAt?_eq_head?]
  unfold blankStop
  cases text.drop (place + 1 + runLength .whitespace (text.drop (place + 1))) with
  | nil =>
      rfl
  | cons c rest =>
      simp only [List.head?_cons, Option.map_some]
      rw [Nat.add_right_comm place 1, Nat.add_right_comm _ 1, Nat.add_sub_cancel]

/-- The step to the end of a word goes to the first end of a word behind the place. -/
theorem wordEndFrom_isLeastOr
    (text : List Char)
    (place : Nat) :
    IsLeastOr {next | IsWordEnd text next ∧ place < next} (text.length - 1)
      (wordEndFrom text place) := by
  obtain ⟨fromPlace, blank, notBlank⟩ := blankStop_isStop text (place + 1)
  rw [wordEndFrom_eq]
  generalize blankStop text (place + 1) = first at *
  have behindBlanks
      {next : Nat}
      (isEnd : IsWordEnd text next)
      (behind : place < next) :
      first ≤ next := by
    apply Nat.le_of_not_lt
    intro before
    exact isEnd.notBlank (blank next behind before)
  cases isClass : classAt? text first with
  | none =>
      right
      refine ⟨?_, rfl⟩
      rintro next ⟨isEnd, behind⟩
      have outside : text.length ≤ first := by
        simpa [classAt?] using isClass
      exact
        absurd isEnd.inText
          (Nat.not_lt_of_le (Nat.le_trans outside (behindBlanks isEnd behind)))
  | some charClass =>
      left
      obtain ⟨same, stops⟩ := runLength_drop_isRun charClass text first
      have someRun : runLength charClass (text.drop first) ≠ 0 := by
        intro noRun
        rw [noRun] at stops
        exact stops isClass
      dsimp only
      generalize runLength charClass (text.drop first) = run at *
      have last : first + run - 1 + 1 = first + run := by
        omega
      have lastSame := same (first + run - 1) (by omega) (by omega)
      have isEnd : IsWordEnd text (first + run - 1) :=
        { inText := lt_length_of_classAt? lastSame
          notBlank := by
            rw [lastSame, ← isClass]
            exact notBlank
          closes := by
            right
            rw [lastSame, last]
            exact stops }
      refine ⟨⟨isEnd, by omega⟩, ?_⟩
      rintro next ⟨isEarlier, behind⟩
      apply Nat.le_of_not_lt
      intro before
      have inRun := behindBlanks isEarlier behind
      have sameNext := same (next + 1) (by omega) (by omega)
      rcases isEarlier.closes with isLast | differs
      · have further := lt_length_of_classAt? sameNext
        omega
      · have sameHere := same next inRun (by omega)
        exact differs (sameNext.trans sameHere.symm)

theorem blankStart_isStart (inText : place ≤ text.length) :
    blankStart text place ≤ place ∧
      (∀ between, blankStart text place ≤ between → between < place →
        classAt? text between = some .whitespace) ∧
      (blankStart text place = 0 ∨
        classAt? text (blankStart text place - 1) ≠ some .whitespace) :=
  ⟨Nat.sub_le _ _, runLength_take_isRun .whitespace inText⟩

/-- What is left behind the run at the start of a text. -/
theorem dropWhile_eq_drop_runLength
    (charClass : Text.CharClass)
    (text : List Char) :
    (text.dropWhile fun c => Text.CharClass.of c = charClass) =
      text.drop (runLength charClass text) := by
  have cut :=
    @List.drop_left _
      (text.takeWhile fun c => Text.CharClass.of c = charClass)
      (text.dropWhile fun c => Text.CharClass.of c = charClass)
  rw [List.takeWhile_append_dropWhile] at cut
  exact cut.symm

/-- The step to the start of a word goes back over blanks and then to the start of the run. -/
theorem wordBackwardFrom_eq (inText : place ≤ text.length) :
    wordBackwardFrom text place =
      match classAt? text (blankStart text place - 1) with
      | none => 0
      | some charClass =>
          blankStart text place -
            runLength charClass (text.take (blankStart text place)).reverse := by
  have dropped :
      (text.take place).reverse.dropWhile (fun c => Text.CharClass.of c = .whitespace) =
        (text.take (blankStart text place)).reverse := by
    rw [dropWhile_eq_drop_runLength, List.drop_reverse, List.length_take, List.take_take,
      Nat.min_eq_left inText, Nat.min_eq_left (Nat.sub_le _ _), blankStart]
  have before := (blankStart_isStart inText).1
  unfold wordBackwardFrom
  rw [dropped]
  generalize blankStart text place = stop at *
  cases stop with
  | zero =>
      rw [List.take_zero, Nat.zero_sub]
      split <;> split <;> simp_all
  | succ last =>
      have inside : last < text.length :=
        Nat.lt_of_succ_le (Nat.le_trans before inText)
      have read :
          (text.take (last + 1)).reverse = text[last] :: (text.take last).reverse := by
        rw [List.take_succ_eq_append_getElem inside, List.reverse_append]
        rfl
      rw [read, Nat.add_sub_cancel, classAt?_of_lt inside]
      simp only [List.length_reverse, List.length_take,
        Nat.min_eq_left (Nat.le_of_lt inside)]

/-- The step to the start of a word goes to the last start of a word before the place. -/
theorem wordBackwardFrom_isGreatestOr (inText : place ≤ text.length) :
    IsGreatestOr {previous | IsWordStart text previous ∧ previous < place} 0
      (wordBackwardFrom text place) := by
  obtain ⟨toPlace, blank, notBlank⟩ := blankStart_isStart inText
  rw [wordBackwardFrom_eq inText]
  generalize blankStart text place = stop at *
  have beforeBlanks
      {previous : Nat}
      (isStart : IsWordStart text previous)
      (before : previous < place) :
      previous < stop := by
    apply Nat.lt_of_not_le
    intro behind
    exact isStart.notBlank (blank previous behind before)
  rcases Nat.eq_zero_or_pos stop with atStart | someStop
  · right
    constructor
    · rintro previous ⟨isStart, before⟩
      have inBlanks := beforeBlanks isStart before
      omega
    · split <;> simp [atStart]
  · left
    have inside : stop - 1 < text.length := by
      omega
    have isClass := classAt?_of_lt inside
    obtain ⟨same, starts⟩ :=
      runLength_take_isRun (.of text[stop - 1]) (Nat.le_trans toPlace inText)
    rw [isClass] at notBlank ⊢
    have isWord := notBlank.resolve_left (Nat.ne_of_gt someStop)
    have toStop := Nat.sub_le stop (runLength (.of text[stop - 1]) (text.take stop).reverse)
    dsimp only
    generalize stop - runLength (.of text[stop - 1]) (text.take stop).reverse = arrival at *
    have beforeStop : arrival < stop := by
      apply Nat.lt_of_le_of_ne toStop
      rintro rfl
      exact (starts.resolve_left (Nat.ne_of_gt someStop)) isClass
    have isSame := same arrival (Nat.le_refl _) beforeStop
    have isStart : IsWordStart text arrival :=
      { inText := lt_length_of_classAt? isSame
        notBlank := by
          rw [isSame]
          exact isWord
        opens := by
          rw [isSame]
          exact starts }
    refine ⟨⟨isStart, Nat.lt_of_lt_of_le beforeStop toPlace⟩, ?_⟩
    rintro previous ⟨isLater, before⟩
    apply Nat.le_of_not_lt
    intro behind
    have inRun := beforeBlanks isLater before
    have samePrevious := same (previous - 1) (by omega) (by omega)
    have sameHere := same previous (Nat.le_of_lt behind) inRun
    exact not_isWordStart_of_same (by omega) (samePrevious.trans sameHere.symm) isLater

end Step

/-! ## Any number of steps -/

/-- Where a motion arrives that is asked for once. -/
def once
    (motion : Motion)
    (buffer : Buffer)
    (args : MotionArgs)
    (place : Nat) : Nat :=
  motion.target buffer place { args with count := 1 }

section Steps

variable
  {motion : Motion}
  {buffer : Buffer}
  {place : Nat}
  {args : MotionArgs}

theorem once_le : motion.once buffer args place ≤ buffer.length :=
  motion.target_le buffer place { args with count := 1 }

/-- A motion that repeats a step is repeated as often as it is asked for. -/
theorem target_eq_iterate_once
    {step : Nat → Nat}
    (repeats :
      ∀ place (args : MotionArgs),
        motion.target buffer place args =
          iterate step (max args.count 1) (buffer.clamp place)) :
    motion.target buffer place args = (motion.once buffer args)^[max args.count 1] place := by
  have single (place : Nat) : motion.once buffer args place = step (buffer.clamp place) := by
    rw [once, repeats]
    rfl
  -- Behind the first step every place is one of the text.
  have others (count : Nat) (place : Nat) (inText : place ≤ buffer.length) :
      (motion.once buffer args)^[count] place = iterate step count place := by
    induction count generalizing place with
    | zero =>
        rfl
    | succ count inductionHypothesis =>
        rw [Function.iterate_succ_apply, inductionHypothesis _ once_le, single,
          Buffer.clamp_of_le inText, iterate]
  obtain ⟨count, isCount⟩ : ∃ count, max args.count 1 = count + 1 :=
    ⟨max args.count 1 - 1, by omega⟩
  rw [repeats, isCount, Function.iterate_succ_apply, others count _ once_le, single, iterate]

/--
Asked for once, the word motions go to the first start of a word behind the place, to the
first end of one behind it, and to the last start of one before it.  Without such a place
they go to the end of the text, to its last character, and to its start.  Asked for more
often, they do this again from where they arrive.
-/
theorem target_word_places
    (buffer : Buffer)
    (place : Nat)
    (args : MotionArgs) :
    IsLeastOr {next | IsWordStart buffer.text next ∧ place < next} buffer.length
        (wordForward.once buffer args place) ∧
      IsLeastOr {next | IsWordEnd buffer.text next ∧ place < next} (buffer.length - 1)
        (wordEnd.once buffer args place) ∧
      IsGreatestOr {previous | IsWordStart buffer.text previous ∧ previous < place} 0
        (wordBackward.once buffer args place) ∧
      wordForward.target buffer place args =
        (wordForward.once buffer args)^[max args.count 1] place ∧
      wordEnd.target buffer place args =
        (wordEnd.once buffer args)^[max args.count 1] place ∧
      wordBackward.target buffer place args =
        (wordBackward.once buffer args)^[max args.count 1] place := by
  have inText := buffer.clamp_le place
  have behind {other : Nat} (isPlace : other < buffer.length) :
      place < other ↔ buffer.clamp place < other := by
    rw [Buffer.clamp_eq_min]
    omega
  have before {other : Nat} (isPlace : other < buffer.length) :
      other < place ↔ other < buffer.clamp place := by
    rw [Buffer.clamp_eq_min]
    omega
  have starts := wordForwardFrom_isLeastOr inText
  have ends := wordEndFrom_isLeastOr buffer.text (buffer.clamp place)
  have startsBefore := wordBackwardFrom_isGreatestOr inText
  refine
    ⟨?_, ?_, ?_, target_eq_iterate_once fun _ _ => rfl, target_eq_iterate_once fun _ _ => rfl,
      target_eq_iterate_once fun _ _ => rfl⟩
  · simp only [and_congr_right fun isStart : IsWordStart buffer.text _ => behind isStart.inText]
    exact starts
  · simp only [and_congr_right fun isEnd : IsWordEnd buffer.text _ => behind isEnd.inText]
    exact ends
  · simp only [and_congr_right fun isStart : IsWordStart buffer.text _ => before isStart.inText]
    exact startsBefore

/-- Punctuation is a word of its own, also where no blank is before it. -/
example :
    let buffer := Buffer.ofText "foo.bar (x)".toList
    wordForward.target buffer 0 { count := 3 } = 8 ∧ wordEnd.target buffer 2 {} = 3 ∧
      wordBackward.target buffer 10 { count := 2 } = 8 := by
  decide +kernel

end Steps

end ChordEditor.Motion
