import ChordEditor.Proofs.Commands.Outdenting
import ChordEditor.Proofs.Commands.TypedText
import ChordEditor.Proofs.Session.Operations

namespace ChordEditor.Editor

/-!
# Keys of insert mode in a session

Text with nested brackets is typed as it is, and the backspace takes a character back with
all that it has brought.

Taking indentation away keeps the cursor's line where the blanks taken are blanks of this
line only.  A blank that ends the line is taken as well, and so the line below takes its
place, which can be longer.
-/

open Commands

variable {editor : Editor}

/--
A text without quotes in which brackets are nested is typed as it is: it comes to stand at
the cursor, which goes behind it, and no partner of a bracket is left.
-/
theorem typing_nested_inserts_verbatim
    {typed : List Char}
    (inText : editor.position ≤ editor.buffer.length)
    (nested : Text.WellNested bracketPairs typed)
    (noQuote : ∀ c ∈ typed, isQuote c = false) :
    ∃ next,
      (typed.forM typeChar).runOn editor = (.ok (), next) ∧
        next.buffer.text =
          editor.buffer.text.take editor.position ++ typed ++
            editor.buffer.text.drop editor.position ∧
          next.position = editor.position + typed.length := by
  have stands := standsBetween_of_inText inText
  obtain ⟨next, ended, left⟩ := typing_leaves nested noQuote stands
  refine ⟨next, ended, left.text, ?_⟩
  rw [left.position, List.length_append, ← stands.position]

/-- A call with an index in it is typed between two characters. -/
theorem typing_call_inserts_verbatim :
    ∃ next,
      ("f(x[1])".toList.forM typeChar).runOn ((demo "ab".toList).setCursor 1) =
          (.ok (), next) ∧
        next.buffer.text = "af(x[1])b".toList ∧ next.position = 8 := by
  have letter (c : Char) (isPlain : Text.IsPlain bracketPairs c) :
      Text.WellNested bracketPairs [c] :=
    .plain isPlain .nil
  have index : Text.WellNested bracketPairs ['[', '1', ']'] :=
    (letter '1' (by decide)).wrapped (by decide)
  have call : Text.WellNested bracketPairs "f(x[1])".toList :=
    (letter 'f' (by decide)).append (((letter 'x' (by decide)).append index).wrapped (by decide))
  obtain ⟨next, ended, text, place⟩ :=
    @typing_nested_inserts_verbatim ((demo "ab".toList).setCursor 1) _ (by decide +kernel) call
      (by simp [isQuote])
  exact ⟨next, ended, text, place⟩

/--
A character other than a space that does not step over its like is typed and taken back by
the backspace, with its partner if it has brought one: the text and the cursor's place are
as they were.
-/
theorem backspace_undoes_typing
    {c : Char}
    (inText : editor.position ≤ editor.buffer.length)
    (notSpace : c ≠ ' ')
    (stays : ¬ (isCloser c = true ∧ editor.buffer.charAt? editor.position = some c)) :
    ∃ next,
      (do
        typeChar c
        typeBackspace : CommandM Unit).runOn editor = (.ok (), next) ∧
        next.buffer.text = editor.buffer.text ∧ next.position = editor.position := by
  have stands := standsBetween_of_inText inText
  rw [stands.charAt?_eq] at stays
  obtain ⟨next, ended, left⟩ := backspace_takes_typed stands notSpace stays
  refine ⟨next, ended, ?_, ?_⟩
  · rw [left.text, List.take_append_drop]
  · rw [left.position, ← stands.position]

/-- A quote typed at the end of a line is taken back with its partner, and one in a word alone. -/
theorem backspace_undoes_quote :
    let atEnd := (demo "ab \ncd".toList).setCursor 3
    let inWord := (demo "ab \ncd".toList).setCursor 1
    (∃ next,
        (do
          typeChar '\''
          typeBackspace : CommandM Unit).runOn atEnd = (.ok (), next) ∧
          next.buffer.text = "ab \ncd".toList ∧ next.position = 3) ∧
      ∃ next,
        (do
          typeChar '\''
          typeBackspace : CommandM Unit).runOn inWord = (.ok (), next) ∧
          next.buffer.text = "ab \ncd".toList ∧ next.position = 1 := by
  intro atEnd inWord
  constructor
  · exact
      @backspace_undoes_typing atEnd '\'' (by decide +kernel) (by decide) (by decide +kernel)
  · exact
      @backspace_undoes_typing inWord '\'' (by decide +kernel) (by decide) (by decide +kernel)

end ChordEditor.Editor
