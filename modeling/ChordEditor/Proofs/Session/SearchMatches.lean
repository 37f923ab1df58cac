import ChordEditor.Proofs.Search.Matches
import ChordEditor.Proofs.Session.Stability

namespace ChordEditor.Editor

/-!
# The matches are those of the present text

In the middle of an event the matches may be out of date, but then the version that they
were found in is an earlier one, for versions only grow.  So at the end of the event the
comparison of the versions tells whether they have to be found anew.  A text that is
loaded begins with version zero again, whatever was searched before: there the matches
are found anew without any comparison.
-/

/-- The matches are those of the text as it was when they were found. -/
structure SearchFollows (editor : Editor) : Prop where
  idle : editor.search.active = false → editor.search.matched = []
  active :
    editor.search.active = true →
      ∃ term,
        editor.search.term = some term ∧
          term.text ≠ [] ∧
            editor.search.version ≤ editor.buffer.version ∧
              (editor.search.version = editor.buffer.version →
                editor.search.matched = term.spansIn editor.buffer.text)

/-- The matches are those of the present text, for they were found in its version. -/
structure SearchSettled (editor : Editor) : Prop extends SearchFollows editor where
  current :
    editor.search.active = true → editor.search.version = editor.buffer.version

/-- Only search and buffer matter to whether the matches follow. -/
theorem SearchFollows.of_same
    {before after : Editor}
    (follows : before.SearchFollows)
    (buffer : after.buffer = before.buffer)
    (search : after.search = before.search) :
    after.SearchFollows := by
  obtain ⟨idle, active⟩ := follows
  rw [← buffer, ← search] at active
  rw [← search] at idle
  exact ⟨idle, active⟩

/-- Only search and buffer matter to whether the matches are settled. -/
theorem SearchSettled.of_same
    {before after : Editor}
    (settled : before.SearchSettled)
    (buffer : after.buffer = before.buffer)
    (search : after.search = before.search) :
    after.SearchSettled := by
  obtain ⟨follows, current⟩ := settled
  rw [← buffer, ← search] at current
  exact ⟨follows.of_same buffer search, current⟩

/-- Finding the matches anew settles them. -/
theorem SearchFollows.refreshed
    {editor : Editor}
    (follows : editor.SearchFollows)
    (buffer : Buffer) :
    ({ editor with buffer, search := editor.search.refresh buffer }).SearchSettled := by
  by_cases isActive : editor.search.active = true
  · obtain ⟨term, isTerm, someText, _⟩ := follows.active isActive
    have found :
        editor.search.refresh buffer =
          { editor.search with
            matched := term.spansIn buffer.text
            version := buffer.version } := by
      simp only [SearchState.refresh, isTerm, isActive, if_true]
    rw [found]
    refine ⟨⟨?_, ?_⟩, fun _ => rfl⟩
    · intro isIdle
      rw [isActive] at isIdle
      contradiction
    · intro _
      exact ⟨term, isTerm, someText, Nat.le_refl _, fun _ => rfl⟩
  · have same : editor.search.refresh buffer = editor.search := by
      unfold SearchState.refresh
      split
      · exact if_neg isActive
      · rfl
    rw [same]
    refine ⟨⟨follows.idle, ?_⟩, ?_⟩
    · intro isStillActive
      contradiction
    · intro isStillActive
      contradiction

/-- A search that is begun finds the matches of the text as it is. -/
theorem searchFollows_set
    (editor : Editor)
    (text : List Char)
    (wholeWord : Bool) :
    ({ editor with
      search := editor.search.set text wholeWord editor.buffer }).SearchFollows := by
  unfold SearchState.set
  by_cases noText : text.isEmpty = true
  · rw [if_pos noText]
    exact ⟨fun _ => rfl, nofun⟩
  · rw [if_neg noText]
    have someText : text ≠ [] := by simpa using noText
    exact
      ⟨nofun, fun _ => ⟨⟨text, wholeWord⟩, rfl, someText, Nat.le_refl _, fun _ => rfl⟩⟩

/-- The matches follow through every primitive change. -/
theorem searchFollows_of_primitive
    {before after : Editor}
    (primitive : before.Primitive after)
    (follows : before.SearchFollows) :
    after.SearchFollows := by
  cases primitive with
  | edits counts =>
      refine ⟨follows.idle, ?_⟩
      intro isActive
      obtain ⟨term, isTerm, someText, earlier, found⟩ := follows.active isActive
      have grows := counts.version_le
      refine ⟨term, isTerm, someText, Nat.le_trans earlier grows, ?_⟩
      -- The version that the matches were found in is the present one only if it never moved.
      intro sameVersion
      dsimp only at sameVersion ⊢
      rw [counts.text_eq (by omega)]
      exact found (by omega)
  | moves => exact follows.of_same rfl rfl
  | setsMode mode =>
      unfold setMode
      split
      · exact follows
      · split <;> exact follows.of_same rfl rfl
  | dropsSearch => exact ⟨fun _ => rfl, nofun⟩
  | searchesFor text wholeWord => exact searchFollows_set before text wholeWord
  | notes buffer _ _ search _ => exact follows.of_same buffer search

theorem searchFollows_stable : Stable SearchFollows where
  primitive _ _ := searchFollows_of_primitive
  takenBack _ _ _ follows := follows.of_same rfl rfl

/-- Ending an event finds the matches anew if the version has changed. -/
theorem finishEvent_search
    (editor : Editor)
    (modeBefore : Mode)
    (handled : Bool) :
    (editor.finishEvent modeBefore handled).2.search =
      if editor.search.isStale editor.buffer then
        editor.search.refresh editor.buffer
      else
        editor.search := by
  have highlighted (shown : Editor) :
      shown.refreshHighlight.search = shown.search := by
    unfold refreshHighlight
    split <;> rfl
  unfold finishEvent settle refreshSearch
  dsimp only
  rw [refreshHighlight_buffer, highlighted]
  split
  · rename_i stale
    rw [if_pos (show editor.search.isStale editor.buffer = true from stale)]
    rfl
  · rename_i current
    rw [if_neg (show ¬ editor.search.isStale editor.buffer = true from current), highlighted]

theorem finishEvent_searchSettled
    {editor : Editor}
    (follows : editor.SearchFollows)
    (modeBefore : Mode)
    (handled : Bool) :
    (editor.finishEvent modeBefore handled).2.SearchSettled := by
  have search := editor.finishEvent_search modeBefore handled
  have buffer := editor.finishEvent_buffer modeBefore handled
  by_cases stale : editor.search.isStale editor.buffer = true
  · rw [if_pos stale] at search
    exact (follows.refreshed { editor.buffer with dirty := none }).of_same buffer search
  · rw [if_neg stale] at search
    have settled :
        ({ editor with buffer := { editor.buffer with dirty := none } }).SearchSettled := by
      refine ⟨⟨follows.idle, follows.active⟩, ?_⟩
      intro isActive
      dsimp only at isActive ⊢
      simpa [SearchState.isStale, isActive] using stale
    exact settled.of_same buffer search

/-- A text that is swapped in has the matches found in it. -/
theorem loadSource_searchSettled
    {editor : Editor}
    (follows : editor.SearchFollows)
    (source : String)
    (text : List Char) :
    (editor.loadSource source text).SearchSettled := by
  have remembered : editor.rememberCursor.SearchFollows := by
    unfold rememberCursor
    split
    · exact follows.of_same rfl rfl
    · exact follows
  have replaced := remembered.refreshed (Buffer.ofText text)
  have recalled (shown : Editor) :
      (shown.recallCursor source).search = shown.search ∧
        (shown.recallCursor source).buffer = shown.buffer := by
    unfold recallCursor
    split <;> exact ⟨rfl, rfl⟩
  obtain ⟨search, buffer⟩ := recalled (editor.rememberCursor.replaceDocument text)
  exact replaced.of_same buffer search

/-- Every operation leaves the matches settled. -/
theorem run_searchSettled
    (editor : Editor)
    (operation : Operation)
    (settled : editor.SearchSettled) :
    (operation.run editor).SearchSettled := by
  refine
    searchFollows_stable.run (fun _ settled => settled.toSearchFollows) ?_ ?_ ?_ operation
      settled
  · intro editor modeBefore handled follows
    exact finishEvent_searchSettled follows modeBefore handled
  · intro editor grammar highlight settled
    exact settled.of_same rfl rfl
  · intro editor source text settled
    exact loadSource_searchSettled settled.toSearchFollows source text

/-- What is seen of the search: the matches of the term in the text, or none. -/
structure ShowsMatches (editor : Editor) : Prop where
  idle : editor.search.active = false → editor.search.matched = []
  active :
    editor.search.active = true →
      ∃ term,
        editor.search.term = some term ∧
          ∀ spans,
            term.MatchList editor.buffer.text 0 spans ↔ spans = editor.search.matched

theorem SearchSettled.shows
    {editor : Editor}
    (settled : editor.SearchSettled) :
    editor.ShowsMatches := by
  refine ⟨settled.idle, ?_⟩
  intro isActive
  obtain ⟨term, isTerm, someText, _, found⟩ := settled.active isActive
  refine ⟨term, isTerm, ?_⟩
  intro spans
  rw [found (settled.current isActive)]
  exact SearchTerm.matchList_iff someText editor.buffer.text spans

/--
Before, between and after the operations of a session the matches are exactly those of
the term in the present text while a search is active, and there are none otherwise.
-/
theorem matches_current_throughout
    {config : Config}
    {grammars : GrammarRegistry}
    {text : List Char}
    {started : Editor}
    (isStarted : start config grammars text = .ok started)
    (operations : List Operation) :
    started.Throughout ShowsMatches operations := by
  have atStart : started.SearchSettled := by
    unfold start at isStarted
    cases found : grammars.get config.settings.grammar with
    | error error =>
        rw [found] at isStarted
        cases isStarted
    | ok grammar =>
        rw [found] at isStarted
        cases isStarted
        exact ⟨⟨fun _ => rfl, nofun⟩, nofun⟩
  have throughout := throughout_of_run run_searchSettled atStart operations
  exact throughout.imp fun _ settled => settled.shows

/-- The matches follow a substitution, its undoing, and a text that is swapped in. -/
theorem matches_current_while_substituting :
    let searched := (Operation.submitCommandLine "/a".toList).run (demo "a b a".toList)
    let substituted := (Operation.submitCommandLine "%s/b/a/g".toList).run searched
    let undone := (Operation.execute .undo {}).run substituted
    let swapped := (Operation.loadSource "other" "aa".toList).run undone
    (demo "a b a".toList).Throughout ShowsMatches
        [.submitCommandLine "/a".toList, .submitCommandLine "%s/b/a/g".toList,
          .execute .undo {}, .loadSource "other" "aa".toList] ∧
      searched.search.matched = [⟨0, 1⟩, ⟨4, 5⟩] ∧
        substituted.search.matched = [⟨0, 1⟩, ⟨2, 3⟩, ⟨4, 5⟩] ∧
          undone.search.matched = [⟨0, 1⟩, ⟨4, 5⟩] ∧
            swapped.search.matched = [⟨0, 1⟩, ⟨1, 2⟩] := by
  intro searched substituted undone swapped
  refine ⟨matches_current_throughout (start_demo _) _, ?_⟩
  decide +kernel

end ChordEditor.Editor
