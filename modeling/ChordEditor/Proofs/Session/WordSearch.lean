import ChordEditor.Proofs.Search.WholeWords
import ChordEditor.Proofs.Session.SearchMatches
import ChordEditor.Proofs.Session.Steps

namespace ChordEditor

/-!
# Searching for the word at the cursor in a session

The action finds the matches of the word in the text as it is, and the end of the event
leaves them there.
-/

/-- A search for some text finds its matches in the buffer. -/
theorem SearchState.set_of_ne_nil
    (state : SearchState)
    {text : List Char}
    (someText : text ≠ [])
    (wholeWord : Bool)
    (buffer : Buffer) :
    state.set text wholeWord buffer =
      { state with
        term := some ⟨text, wholeWord⟩
        active := true
        matched := SearchTerm.spansIn ⟨text, wholeWord⟩ buffer.text
        version := buffer.version } := by
  unfold SearchState.set
  rw [if_neg (by simpa using someText)]
  rfl

/-- The word at the cursor is searched for, and it is told how often it was found. -/
theorem Commands.searchWord_runOn
    {editor : Editor}
    {span : Span}
    (isWord : editor.buffer.wordSpan? editor.position = some span) :
    ∃ message,
      searchWord.runOn editor =
        (.ok (),
          ({ editor with
            search :=
              editor.search.set (editor.buffer.spanText span) true editor.buffer }).tell
            message) := by
  unfold searchWord
  rw [CommandM.runOn_get_bind, isWord]
  exact ⟨_, rfl⟩

namespace Editor

variable
  {editor : Editor}
  {operation : Operation}
  {context : CommandContext}
  {span : Span}

/-- After the word at the cursor is searched for its matches in the text are shown. -/
theorem run_searchWord
    (runs : operation.actionOn? editor = some (.searchWord, context))
    (isWord : editor.buffer.wordSpan? editor.position = some span) :
    (operation.run editor).search.matched =
      SearchTerm.spansIn ⟨editor.buffer.spanText span, true⟩ editor.buffer.text := by
  obtain ⟨dispatcher, modeBefore, handled, after⟩ := Operation.run_of_action runs
  let begun := ({ editor.fresh with dispatcher }).beginGroup Action.searchWord.name
  have found : begun.buffer.wordSpan? begun.position = some span := isWord
  obtain ⟨message, ended⟩ := Commands.searchWord_runOn found
  have set :=
    begun.search.set_of_ne_nil (Buffer.wordSpan_isWord isWord).spanText_ne_nil true begun.buffer
  have ran :
      ∃ left : Editor,
        ({ editor.fresh with dispatcher }).runAction .searchWord context = left ∧
          left.search = begun.search.set (editor.buffer.spanText span) true begun.buffer ∧
            left.buffer.version = begun.buffer.version := by
    refine ⟨_, runAction_of_ended ended, ?_⟩
    split <;> exact ⟨rfl, rfl⟩
  obtain ⟨left, isLeft, search, version⟩ := ran
  have current : ¬ left.search.isStale left.buffer = true := by
    rw [search, set, SearchState.isStale, version]
    simp
  rw [after, isLeft, finishEvent_search, if_neg current, search, set]
  rfl

/--
The word at the cursor is among the matches exactly if patterns have a word boundary at
both its ends, and all matches stand alone exactly if all its occurrences between such
boundaries do.  Both is so in a text in which motions and patterns have the same word
characters.
-/
theorem star_finds_word_iff_bounded
    (runs : operation.actionOn? editor = some (.searchWord, context))
    (isWord : editor.buffer.wordSpan? editor.position = some span) :
    let text := editor.buffer.text
    let term : SearchTerm := ⟨editor.buffer.spanText span, true⟩
    let matched := (operation.run editor).search.matched
    (span ∈ matched ↔ term.OccursAt text span.start) ∧
      ((∀ found ∈ matched, Buffer.StandsAlone text found) ↔
        ∀ start,
          term.OccursAt text start →
            Buffer.StandsAlone text ⟨start, start + term.text.length⟩) ∧
        ((∀ c ∈ text, Text.isWordChar c = Text.isPatternWordChar c) →
          span ∈ matched ∧ ∀ found ∈ matched, Buffer.StandsAlone text found) := by
  intro text term matched
  have word := Buffer.wordSpan_isWord isWord
  have shown : matched = term.spansIn text := run_searchWord runs isWord
  have listed : term.MatchList text 0 matched := by
    rw [shown]
    exact SearchTerm.spansIn_matchList word.spanText_ne_nil text
  have wordChars : ∀ c ∈ term.text, Text.isWordChar c = true := fun c isIn => word.wordChar isIn
  have isSpan : (⟨span.start, span.start + term.text.length⟩ : Span) = span := by
    have length : term.text.length = span.stop - span.start := word.length_spanText
    have ordered := word.someChar
    rw [length, Nat.add_sub_cancel' (Nat.le_of_lt ordered)]
  have isMatch : span ∈ matched ↔ term.OccursAt text span.start := by
    constructor
    · exact listed.occurs span
    · intro occurs
      rw [← isSpan]
      exact listed.mem_of_apart wordChars occurs word.alone.before
  have allAlone := listed.all_alone_iff wordChars
  refine ⟨isMatch, allAlone, ?_⟩
  intro agree
  rw [isMatch, allAlone]
  constructor
  · have around := editor.buffer.text_around_slice (Nat.le_of_lt word.someChar)
    have starts : (text.take span.start).length = span.start := by
      have inText : span.stop ≤ text.length := word.inText
      have ordered := word.someChar
      rw [List.length_take]
      omega
    refine ⟨text.take span.start, text.drop span.stop, around.symm, starts, ?_⟩
    intro _
    apply (SearchTerm.wholeWord_iff_of_agree agree around.symm word.spanText_ne_nil wordChars).mpr
    rw [starts]
    show Buffer.StandsAlone text ⟨span.start, span.start + term.text.length⟩
    rw [isSpan]
    exact word.alone
  · rintro start ⟨before, after, shape, rfl, isWhole⟩
    exact
      (SearchTerm.wholeWord_iff_of_agree agree shape word.spanText_ne_nil wordChars).mp
        (isWhole rfl)

/-- In a text within ASCII the word at the cursor is found, and as a whole word alone. -/
theorem star_finds_ascii_word :
    let editor := demo "foo food foo\nfoo".toList
    let matched := (editor.execute .searchWord {}).2.search.matched
    (⟨0, 3⟩ ∈ matched ∧
        ∀ found ∈ matched, Buffer.StandsAlone "foo food foo\nfoo".toList found) ∧
      matched = [⟨0, 3⟩, ⟨9, 12⟩, ⟨13, 16⟩] := by
  refine ⟨?_, by decide +kernel⟩
  have ascii : "foo food foo\nfoo".toList.all Text.isAscii = true := by
    decide +kernel
  have isWord :
      (demo "foo food foo\nfoo".toList).buffer.wordSpan?
        (demo "foo food foo\nfoo".toList).position = some ⟨0, 3⟩ := by
    decide +kernel
  exact
    (star_finds_word_iff_bounded
      (show (Operation.execute .searchWord {}).actionOn? _ = some (.searchWord, {}) from rfl)
      isWord).2.2
      fun c isIn => Text.isWordChar_of_isAscii (List.all_eq_true.mp ascii c isIn)

end Editor

end ChordEditor
