import ChordEditor.Commands.Insert
import ChordEditor.Proofs.Commands.Pasting
import ChordEditor.Proofs.Text.WellNested

namespace ChordEditor

/-!
# Characters typed and taken back

A character that is typed comes before the cursor, whatever else it brings: a bracket or a
quote may put its partner behind the cursor, and one that closes a pair may be there
already.  So only what stands behind the cursor has to be told (`typeChar_leaves`).

A bracket leaves its partner behind the cursor until that is typed, so a text with nested
brackets is typed as it is.  The backspace takes away what a character has brought: the
pair if there is one, and else the character, for it is no space of an indentation.
-/

namespace Editor

/-- The cursor stands between two parts that make up the text. -/
structure StandsBetween (editor : Editor) (before after : List Char) : Prop where
  text : editor.buffer.text = before ++ after
  position : editor.position = before.length

section

variable
  {editor : Editor}
  {before after : List Char}

/-- A cursor in the text has a part before it and one behind it. -/
theorem standsBetween_of_inText (inText : editor.position ≤ editor.buffer.length) :
    editor.StandsBetween (editor.buffer.text.take editor.position)
      (editor.buffer.text.drop editor.position) := by
  constructor
  · rw [List.take_append_drop]
  · rw [List.length_take]
    exact (Nat.min_eq_left inText).symm

theorem setCursor_standsBetween (text : editor.buffer.text = before ++ after) :
    (editor.setCursor before.length).StandsBetween before after := by
  refine ⟨text, ?_⟩
  show editor.buffer.clamp before.length = before.length
  rw [Buffer.clamp, text, List.take_left]

namespace StandsBetween

theorem position_ne_zero
    {c : Char}
    (stands : editor.StandsBetween (before ++ [c]) after) :
    editor.position ≠ 0 := by
  rw [stands.position, List.length_append]
  exact Nat.succ_ne_zero _

variable (stands : editor.StandsBetween before after)

include stands

theorem inText : editor.position ≤ editor.buffer.length := by
  rw [stands.position, Buffer.length, stands.text, List.length_append]
  exact Nat.le_add_right _ _

theorem charAt?_eq : editor.buffer.charAt? editor.position = after.head? := by
  rw [Buffer.charAt?, stands.text, stands.position, List.getElem?_append_right (Nat.le_refl _),
    Nat.sub_self, List.head?_eq_getElem?]

theorem charBefore?_eq :
    Commands.charBefore? editor.buffer editor.position = before.getLast? := by
  rw [Commands.charBefore?, Buffer.charAt?, stands.text, stands.position, List.getLast?_eq_getElem?]
  cases before with
  | nil =>
      rfl
  | cons c before =>
      rw [if_neg (by simp), List.getElem?_append_left (by simp)]

end StandsBetween

end

end Editor

namespace CommandM

/-- A command is accepted and leaves the cursor between two parts of the text. -/
def LeavesBetween
    (command : CommandM Unit)
    (editor : Editor)
    (before after : List Char) : Prop :=
  ∃ next, command.runOn editor = (.ok (), next) ∧ next.StandsBetween before after

namespace LeavesBetween

variable
  {command : CommandM Unit}
  {editor : Editor}
  {before after before' after' : List Char}

theorem bind
    {next : CommandM Unit}
    (first : command.LeavesBetween editor before after)
    (second :
      ∀ between,
        between.StandsBetween before after → next.LeavesBetween between before' after') :
    (command >>= fun _ => next).LeavesBetween editor before' after' := by
  obtain ⟨between, ended, stands⟩ := first
  obtain ⟨last, lastEnded, lastStands⟩ := second between stands
  exact ⟨last, (Commands.runOn_bind_of_ok ended).trans lastEnded, lastStands⟩

/-- Text is put in before the cursor and behind it. -/
theorem inserted
    (stands : editor.StandsBetween before after)
    (front behind : List Char) :
    (do
      CommandM.insert editor.position (front ++ behind)
      CommandM.setCursor (editor.position + front.length) : CommandM Unit).LeavesBetween editor
      (before ++ front) (behind ++ after) := by
  obtain ⟨buffer, ended, text⟩ := Commands.insert_runOn stands.inText (front ++ behind)
  have whole : buffer.text = (before ++ front) ++ (behind ++ after) := by
    rw [text, stands.text, stands.position, List.take_left, List.drop_left]
    simp
  refine ⟨_, Commands.runOn_bind_of_ok ended, ?_⟩
  rw [stands.position, ← List.length_append]
  exact @Editor.setCursor_standsBetween { editor with buffer } _ _ whole

/-- Text is taken out before the cursor and behind it. -/
theorem deleted
    {front behind : List Char}
    (stands : editor.StandsBetween (before ++ front) (behind ++ after)) :
    (do
      let _ ← CommandM.delete
        ⟨editor.position - front.length, editor.position + behind.length⟩
      CommandM.setCursor (editor.position - front.length) : CommandM Unit).LeavesBetween editor
      before after := by
  have starts : editor.position - front.length = before.length := by
    rw [stands.position, List.length_append, Nat.add_sub_cancel]
  have stops : editor.position + behind.length = (before ++ front ++ behind).length := by
    rw [stands.position, List.length_append, List.length_append, List.length_append]
  have whole : editor.buffer.text = (before ++ front ++ behind) ++ after := by
    rw [stands.text, List.append_assoc (before ++ front)]
  have isRange :
      (⟨before.length, (before ++ front ++ behind).length⟩ : Span).IsRangeOf editor.buffer := by
    constructor
    · simp only [List.length_append]
      omega
    · rw [Buffer.length, whole]
      simp only [List.length_append]
      omega
  rw [starts, stops]
  obtain ⟨buffer, ended, text⟩ := Commands.delete_runOn isRange
  have left : buffer.text = before ++ after := by
    rw [text, whole, List.drop_left, List.append_assoc, List.append_assoc, List.take_left]
  refine ⟨_, Commands.runOn_bind_of_ok ended, ?_⟩
  exact @Editor.setCursor_standsBetween { editor with buffer } _ _ left

end LeavesBetween

end CommandM

namespace Commands

open CommandM

variable
  {editor : Editor}
  {before after : List Char}

/-- What stands behind the cursor once a character has been typed before a text. -/
def behindTyped (c : Char) (previous : Option Char) (after : List Char) : List Char :=
  if isCloser c ∧ after.head? = some c then
    after.tail
  else
    (typedText c previous after.head?).tail ++ after

/-- The character itself comes first of what is typed with it. -/
theorem typedText_eq_cons (c : Char) (previous next : Option Char) :
    typedText c previous next = [c] ++ (typedText c previous next).tail := by
  unfold typedText
  split
  · rfl
  · split <;> rfl

/-- A character that is typed comes before the cursor. -/
theorem typeChar_leaves
    (stands : editor.StandsBetween before after)
    (c : Char) :
    (typeChar c).LeavesBetween editor (before ++ [c]) (behindTyped c before.getLast? after) := by
  unfold typeChar LeavesBetween
  rw [runOn_get_bind]
  dsimp only
  rw [stands.charAt?_eq, stands.charBefore?_eq, behindTyped]
  by_cases stepsOver : isCloser c = true ∧ after.head? = some c
  · obtain ⟨rest, rfl⟩ := List.head?_eq_some_iff.mp stepsOver.2
    rw [if_pos stepsOver, if_pos stepsOver]
    refine ⟨_, rfl, ?_⟩
    have moved : editor.position + 1 = (before ++ [c]).length := by
      rw [stands.position, List.length_append, List.length_singleton]
    rw [moved]
    apply Editor.setCursor_standsBetween
    rw [stands.text, List.append_assoc]
    rfl
  · rw [if_neg stepsOver, if_neg stepsOver, typedText_eq_cons]
    exact LeavesBetween.inserted stands [c] _

section Nested

/-- The brackets that are typed in pairs. -/
def bracketPairs : List (Char × Char) :=
  [('(', ')'), ('[', ']'), ('\x7b', '\x7d')]

/-- Whether a character is a quote, which is its own partner. -/
def isQuote (c : Char) : Bool :=
  c == '"' || c == '\''

variable
  {opening closing c : Char}
  {previous : Option Char}

/-- Behind the cursor nothing changes when a character is typed that is in no pair. -/
theorem behindTyped_of_plain
    (isPlain : Text.IsPlain bracketPairs c)
    (notQuote : isQuote c = false) :
    behindTyped c previous after = after := by
  simp only [Text.IsPlain, bracketPairs, List.forall_mem_cons, ne_eq] at isPlain
  obtain ⟨⟨_, _⟩, ⟨_, _⟩, ⟨_, _⟩, _⟩ := isPlain
  simp only [isQuote, Bool.or_eq_false_iff, beq_eq_false_iff_ne, ne_eq] at notQuote
  have notCloser : isCloser c = false := by
    simp_all [isCloser]
  have alone : closingOf? c = none := by
    simp_all [closingOf?]
  rw [behindTyped, notCloser, if_neg (by simp), typedText, alone]
  rfl

/-- An opening bracket puts its partner behind the cursor. -/
theorem behindTyped_of_opening (isPair : (opening, closing) ∈ bracketPairs) :
    behindTyped opening previous after = closing :: after := by
  simp only [bracketPairs, List.mem_cons, List.not_mem_nil, or_false, Prod.mk.injEq] at isPair
  rcases isPair with ⟨rfl, rfl⟩ | ⟨rfl, rfl⟩ | ⟨rfl, rfl⟩ <;> rfl

/-- A closing bracket takes the place of the one that is behind the cursor. -/
theorem behindTyped_of_closing (isPair : (opening, closing) ∈ bracketPairs) :
    behindTyped closing previous (closing :: after) = after := by
  have isCloser : isCloser closing = true := by
    simp only [bracketPairs, List.mem_cons, List.not_mem_nil, or_false, Prod.mk.injEq] at isPair
    rcases isPair with ⟨_, rfl⟩ | ⟨_, rfl⟩ | ⟨_, rfl⟩ <;> rfl
  rw [behindTyped, if_pos ⟨isCloser, rfl⟩, List.tail_cons]

/-- A text with nested brackets comes before the cursor as it is, and nothing behind. -/
theorem typing_leaves
    {typed : List Char}
    (nested : Text.WellNested bracketPairs typed)
    (noQuote : ∀ c ∈ typed, isQuote c = false)
    (stands : editor.StandsBetween before after) :
    (typed.forM typeChar).LeavesBetween editor (before ++ typed) after := by
  induction nested generalizing editor before after with
  | nil =>
      rw [List.append_nil]
      exact ⟨editor, rfl, stands⟩
  | @plain c rest isPlain _ inductionHypothesis =>
      obtain ⟨notQuote, restNoQuote⟩ := List.forall_mem_cons.mp noQuote
      have typed := typeChar_leaves stands c
      rw [behindTyped_of_plain isPlain notQuote] at typed
      have whole : before ++ c :: rest = (before ++ [c]) ++ rest := by
        simp
      rw [whole]
      exact typed.bind fun between stands => inductionHypothesis restNoQuote stands
  | @enclosed opening closing inside rest isPair _ _ innerHypothesis outerHypothesis =>
      simp only [List.forall_mem_cons, List.forall_mem_append] at noQuote
      obtain ⟨_, insideNoQuote, _, restNoQuote⟩ := noQuote
      have opened := typeChar_leaves stands opening
      rw [behindTyped_of_opening isPair] at opened
      have whole : before ++ opening :: (inside ++ closing :: rest) =
          (before ++ [opening] ++ inside ++ [closing]) ++ rest := by
        simp
      rw [whole]
      apply opened.bind
      intro between stands
      show (forM (inside ++ closing :: rest) typeChar).LeavesBetween between _ _
      rw [List.forM_append]
      apply (innerHypothesis insideNoQuote stands).bind
      intro between stands
      have closed := typeChar_leaves stands closing
      rw [behindTyped_of_closing isPair] at closed
      exact closed.bind fun between stands => outerHypothesis restNoQuote stands

end Nested

section Backspace

/-- The backspace takes one character if it is no space. -/
theorem backspaceWidth_eq_one
    (tabWidth : Nat)
    {c : Char}
    {indent : List Char}
    (endsVisible : c ∈ indent ∨ indent = [])
    (notSpace : c ≠ ' ') :
    backspaceWidth tabWidth indent = 1 := by
  have notIndent : ¬ (!indent.isEmpty && indent.all (· == ' ')) = true := by
    rcases endsVisible with isIn | rfl
    · intro allSpaces
      rw [Bool.and_eq_true, List.all_eq_true] at allSpaces
      exact notSpace (eq_of_beq (allSpaces.2 c isIn))
    · exact Bool.false_ne_true
  rw [backspaceWidth, if_neg notIndent]

/-- The backspace takes a pair with nothing between. -/
theorem typeBackspace_pair
    {opening closing : Char}
    (stands : editor.StandsBetween (before ++ [opening]) (closing :: after))
    (isPair : closingOf? opening = some closing) :
    typeBackspace.LeavesBetween editor before after := by
  have emptyPair : isEmptyPair (some opening) (some closing) = true := by
    rw [isEmptyPair, Option.bind_some, isPair]
    exact beq_self_eq_true _
  unfold typeBackspace LeavesBetween
  rw [runOn_get_bind]
  dsimp only
  rw [if_neg stands.position_ne_zero, stands.charBefore?_eq, stands.charAt?_eq,
    List.getLast?_concat, List.head?_cons, if_pos emptyPair]
  exact @LeavesBetween.deleted editor before after [opening] [closing] stands

/-- The backspace takes a single character that is no space, and behind which is no partner. -/
theorem typeBackspace_char
    {c : Char}
    (stands : editor.StandsBetween (before ++ [c]) after)
    (notSpace : c ≠ ' ')
    (notPair : isEmptyPair (some c) after.head? = false) :
    typeBackspace.LeavesBetween editor before after := by
  have endsVisible (start : Nat) :
      c ∈ editor.buffer.slice start editor.position ∨
        editor.buffer.slice start editor.position = [] := by
    rw [Buffer.slice, stands.text, stands.position, List.take_left]
    rcases Nat.lt_or_ge before.length start with behind | starts
    · right
      rw [List.drop_eq_nil_iff, List.length_append]
      exact behind
    · left
      rw [List.drop_append_of_le_length starts]
      exact List.mem_append_right _ (List.mem_singleton_self c)
  unfold typeBackspace LeavesBetween
  rw [runOn_get_bind]
  dsimp only
  rw [if_neg stands.position_ne_zero, stands.charBefore?_eq, stands.charAt?_eq,
    List.getLast?_concat, notPair, if_neg Bool.false_ne_true,
    backspaceWidth_eq_one _ (endsVisible _) notSpace]
  exact @LeavesBetween.deleted editor before after [c] [] stands

/-- A character that is its own partner closes a pair. -/
theorem isCloser_of_own_partner
    {c : Char}
    (own : closingOf? c = some c) :
    isCloser c = true := by
  unfold closingOf? at own
  split at own
  · simp_all
  · split at own
    · simp_all
    · split at own
      · simp_all
      · split at own
        · rename_i isQuote
          rcases isQuote with rfl | rfl <;> rfl
        · contradiction

/-- A character that does not step over its like brings its partner, or it has none there. -/
theorem behindTyped_cases
    {c : Char}
    (previous : Option Char)
    (stays : ¬ (isCloser c = true ∧ after.head? = some c)) :
    (∃ closing, closingOf? c = some closing ∧ behindTyped c previous after = closing :: after) ∨
      isEmptyPair (some c) after.head? = false ∧ behindTyped c previous after = after := by
  rw [behindTyped, if_neg stays, typedText, isEmptyPair, Option.bind_some]
  cases partner : closingOf? c with
  | none =>
      exact .inr ⟨rfl, rfl⟩
  | some closing =>
      dsimp only
      split
      · -- A quote beside a word is alone, and no other one is behind it.
        rename_i besideWord
        obtain ⟨rfl, _⟩ := besideWord
        refine .inr ⟨?_, rfl⟩
        rw [beq_eq_false_iff_ne]
        exact fun sameBehind => stays ⟨isCloser_of_own_partner partner, sameBehind⟩
      · exact .inl ⟨closing, rfl, rfl⟩

/-- The backspace takes away what a character has brought that has not stepped over its like. -/
theorem backspace_takes_typed
    {c : Char}
    (stands : editor.StandsBetween before after)
    (notSpace : c ≠ ' ')
    (stays : ¬ (isCloser c = true ∧ after.head? = some c)) :
    (do
      typeChar c
      typeBackspace : CommandM Unit).LeavesBetween editor before after := by
  apply (typeChar_leaves stands c).bind
  intro between typed
  rcases behindTyped_cases before.getLast? stays with ⟨closing, isPair, behind⟩ |
    ⟨notPair, behind⟩
  · rw [behind] at typed
    exact typeBackspace_pair typed isPair
  · rw [behind] at typed
    exact typeBackspace_char typed notSpace notPair

end Backspace

end Commands

end ChordEditor
