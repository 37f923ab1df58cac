import ChordEditor.Proofs.Session.CursorInText
import ChordEditor.Proofs.Session.Stability

namespace ChordEditor

/-!
# Sources remember their cursor

Loading a source puts the cursor where it was when that source was loaded last and had
to make way for another text, or the same one again.  Where that was is read off the
run: the memory of the session holds it, whatever happens in between, because nothing
but a load changes the memory or the name of the loaded source.
-/

namespace CursorMemory

variable {memory : CursorMemory}

/-- The place of the first entry is found for its source, other places behind it. -/
theorem lookup_cons
    (named source : String)
    (place : Nat)
    (entries : List (String × Nat)) :
    ((named, place) :: entries).lookup source =
      if source = named then some place else entries.lookup source := by
  rw [List.lookup_cons]
  split
  · rename_i same
    rw [if_pos (beq_iff_eq.mp same)]
  · rename_i other
    rw [if_neg (beq_eq_false_iff_ne.mp other)]

/-- What is forgotten is the place of the one source. -/
theorem placeIn?_forget (forgotten source : String) :
    (memory.forget forgotten).placeIn? source =
      if source = forgotten then none else memory.placeIn? source := by
  obtain ⟨entries⟩ := memory
  unfold placeIn? forget
  dsimp only
  induction entries with
  | nil =>
      exact (ite_self none).symm
  | cons entry entries inductionHypothesis =>
      obtain ⟨named, place⟩ := entry
      rw [List.filter_cons, lookup_cons]
      by_cases drops : named = forgotten
      · subst drops
        simp only [bne_self_eq_false, Bool.false_eq_true, if_false, inductionHypothesis]
        split <;> rfl
      · simp only [bne_iff_ne, ne_eq, drops, not_false_eq_true, if_true, lookup_cons,
          inductionHypothesis]
        by_cases found : source = named
        · rw [if_pos found, if_neg (found ▸ drops), if_pos found]
        · rw [if_neg found, if_neg found]

/-- Where a cursor is put in a source: the start of the text if no place is remembered. -/
def placeIn (memory : CursorMemory) (source : String) : Nat :=
  (memory.placeIn? source).getD 0

/-- The place that is remembered is found again, even if it is the start of the text. -/
theorem placeIn_remember
    (left source : String)
    (place : Nat) :
    (memory.remember left place).placeIn source =
      if source = left then place else memory.placeIn source := by
  have others := @placeIn?_forget memory left source
  unfold placeIn remember
  dsimp only
  split
  · rename_i isStart
    rw [others, isStart]
    split <;> rfl
  · show (((left, place) :: (memory.forget left).entries).lookup source).getD 0 = _
    rw [lookup_cons]
    unfold placeIn? at others ⊢
    rw [others]
    split <;> rfl

end CursorMemory

namespace Operation

/-- The name of the source that is loaded after an operation. -/
def loadedAfter (loaded : Option String) : Operation → Option String
  | .loadSource source _ => some source
  | _ => loaded

/-- The place where the cursor is when an operation takes a source out of the session. -/
def leaves? (source : String) (loaded : Option String) (editor : Editor) :
    Operation → Option Nat
  | .loadSource _ _ => if loaded = some source then some editor.position else none
  | _ => none

end Operation

namespace Editor

/--
The place where the cursor was when a source had to make way the last time, given the
name of the source that is loaded before the operations.
-/
def lastLeft? (source : String) : Option String → Editor → List Operation → Option Nat
  | _, _, [] => none
  | loaded, editor, operation :: operations =>
      (lastLeft? source (operation.loadedAfter loaded) (operation.run editor) operations).or
        (operation.leaves? source loaded editor)

variable {editor : Editor}

/-- Only a load changes the memory or the name of the loaded source. -/
theorem run_sources
    {operation : Operation}
    (noLoad : ∀ source text, operation ≠ .loadSource source text) :
    (operation.run editor).source = editor.source ∧
      (operation.run editor).cursorMemory = editor.cursorMemory := by
  have stable :
      Stable fun after =>
        after.source = editor.source ∧ after.cursorMemory = editor.cursorMemory := by
    constructor
    · intro before after primitive held
      cases primitive with
      | edits | moves | dropsSearch | searchesFor =>
          exact held
      | setsMode mode =>
          unfold setMode
          split
          · exact held
          · split <;> exact held
      | notes _ _ _ _ sources =>
          exact ⟨sources.1.trans held.1, sources.2.trans held.2⟩
    · intro before after _ held
      exact held
  refine stable.run_of_no_load (fun _ held => held) ?_ (fun _ _ _ held => held) noLoad ⟨rfl, rfl⟩
  intro worked modeBefore handled held
  obtain ⟨buffer, window, highlight, search, outcome, finished⟩ :=
    worked.finishEvent_eq modeBefore handled
  rw [finished]
  exact held

/-- What loading a source leaves: the text, and the memory of where the others were left. -/
theorem loadSource_parts
    (source : String)
    (text : List Char) :
    (editor.loadSource source text).source = some source ∧
      (editor.loadSource source text).cursorMemory = editor.rememberCursor.cursorMemory ∧
        (editor.loadSource source text).register = editor.register ∧
          (editor.loadSource source text).mode = .normal ∧
            (editor.loadSource source text).buffer = Buffer.ofText text := by
  have kept :
      editor.rememberCursor.register = editor.register := by
    unfold rememberCursor
    split <;> rfl
  unfold loadSource recallCursor
  dsimp only
  split <;> exact ⟨rfl, rfl, kept, rfl, rfl⟩

/-- What is recalled is the place remembered for a source, if the text reaches it. -/
theorem recallCursor_cursor
    (atStart : editor.window.cursor = .atPlace 0)
    (source : String) :
    (editor.recallCursor source).window.cursor =
      .atPlace (min (editor.cursorMemory.placeIn source) editor.buffer.length) := by
  unfold recallCursor CursorMemory.placeIn
  cases editor.cursorMemory.placeIn? source with
  | some place =>
      show Cursor.atPlace (editor.buffer.clamp place) = _
      rw [Buffer.clamp_eq_min]
      rfl
  | none =>
      dsimp only [Option.getD_none]
      rw [atStart, Nat.zero_min]

/-- Loading a source puts the cursor at the place remembered for it, if the text reaches it. -/
theorem loadSource_cursor
    (source : String)
    (text : List Char) :
    (editor.loadSource source text).window.cursor =
      .atPlace
        (min ((editor.loadSource source text).cursorMemory.placeIn source) text.length) := by
  rw [(loadSource_parts source text).2.1]
  exact recallCursor_cursor rfl source

/-- The session remembers the name of the loaded source, and where the others were left. -/
structure Remembers
    (loaded : Option String)
    (left : String → Option Nat)
    (editor : Editor) : Prop where
  source : editor.source = loaded
  place : ∀ source, editor.cursorMemory.placeIn source = (left source).getD 0

/-- An operation leaves a session that remembers, and what it takes out is remembered. -/
theorem Remembers.run
    {loaded : Option String}
    {left : String → Option Nat}
    (remembers : editor.Remembers loaded left)
    (operation : Operation) :
    (operation.run editor).Remembers (operation.loadedAfter loaded)
      (fun source => (operation.leaves? source loaded editor).or (left source)) := by
  have unlessLoad := @run_sources editor operation
  cases operation with
  | loadSource named text =>
      obtain ⟨isLoaded, memory, _⟩ := @loadSource_parts editor named text
      refine ⟨isLoaded, ?_⟩
      intro source
      show (editor.loadSource named text).cursorMemory.placeIn source = _
      rw [memory]
      unfold rememberCursor Operation.leaves?
      rw [remembers.source]
      cases loaded with
      | none =>
          exact remembers.place source
      | some before =>
          dsimp only
          rw [CursorMemory.placeIn_remember]
          by_cases isLeft : source = before
          · rw [if_pos isLeft, if_pos (congrArg some isLeft.symm)]
            rfl
          · have notLeft : some before ≠ some source :=
              fun same => isLeft (Option.some.inj same).symm
            rw [if_neg isLeft, if_neg notLeft]
            exact remembers.place source
  | handleKey | execute | submitCommandLine | setGrammar =>
      obtain ⟨sameSource, sameMemory⟩ := unlessLoad nofun
      refine ⟨sameSource.trans remembers.source, ?_⟩
      intro source
      rw [sameMemory]
      exact remembers.place source

/-- After operations a session remembers where each source was left the last time. -/
theorem Remembers.afterAll
    {loaded : Option String}
    {left : String → Option Nat}
    (remembers : editor.Remembers loaded left)
    (operations : List Operation)
    (source : String) :
    (editor.afterAll operations).cursorMemory.placeIn source =
      ((editor.lastLeft? source loaded operations).or (left source)).getD 0 := by
  induction operations generalizing editor loaded left with
  | nil =>
      exact remembers.place source
  | cons operation operations inductionHypothesis =>
      show ((operation.run editor).afterAll operations).cursorMemory.placeIn source = _
      rw [inductionHypothesis (remembers.run operation), lastLeft?, Option.or_assoc]

/-- A session that is started has no source, and has left none. -/
theorem start_remembers
    {config : Config}
    {grammars : GrammarRegistry}
    {text : List Char}
    {started : Editor}
    (isStarted : start config grammars text = .ok started) :
    started.Remembers none (fun _ => none) := by
  unfold start at isStarted
  cases found : grammars.get config.settings.grammar with
  | error error =>
      rw [found] at isStarted
      cases isStarted
  | ok grammar =>
      rw [found] at isStarted
      cases isStarted
      exact ⟨rfl, fun _ => rfl⟩

/--
Whatever has been done to a session, loading a source puts the cursor, without a
selection, where it was when that source had to make way the last time, or at the end of
the text if that is shorter; a source that never had to is shown from its start.  Being
loaded again counts as making way.  The mode is normal then, and the register is kept.
-/
theorem loaded_source_remembers_cursor
    {config : Config}
    {grammars : GrammarRegistry}
    {text : List Char}
    {started : Editor}
    (isStarted : start config grammars text = .ok started)
    (operations : List Operation)
    (source : String)
    (loaded : List Char) :
    let before := started.afterAll operations
    let after := before.loadSource source loaded
    let left := started.lastLeft? source none (operations ++ [.loadSource source loaded])
    after.window.cursor = .atPlace (min (left.getD 0) loaded.length) ∧
      after.buffer = Buffer.ofText loaded ∧
        after.mode = .normal ∧
          after.register = before.register := by
  intro before after left
  obtain ⟨_, _, sameRegister, isNormal, isLoaded⟩ := @loadSource_parts before source loaded
  refine ⟨?_, isLoaded, isNormal, sameRegister⟩
  have remembered :=
    (start_remembers isStarted).afterAll (operations ++ [.loadSource source loaded]) source
  have isLast : started.afterAll (operations ++ [.loadSource source loaded]) = after :=
    List.foldl_append
  rw [isLast, Option.or_none] at remembered
  rw [← remembered]
  exact loadSource_cursor source loaded

/-- A source that was left behind the end of its new text, and one that is loaded again. -/
theorem sources_left_and_loaded_again :
    let visits : List Operation :=
      [.loadSource "one" "abcd".toList, .execute (.move .documentEnd) {},
        .loadSource "two" "efg".toList, .execute (.move .right) {},
        .loadSource "two" "efg".toList]
    let loaded := (demo []).afterAll visits
    loaded.source = some "two" ∧ loaded.position = 1 ∧
      (demo []).lastLeft? "one" none (visits ++ [.loadSource "one" "xy".toList]) = some 4 ∧
        (loaded.loadSource "one" "xy".toList).window.cursor = .atPlace 2 := by
  intro visits loaded
  have left :
      (demo []).lastLeft? "one" none (visits ++ [.loadSource "one" "xy".toList]) = some 4 := by
    decide +kernel
  have recalled :=
    (loaded_source_remembers_cursor (start_demo []) visits "one" "xy".toList).1
  rw [left] at recalled
  exact ⟨by decide +kernel, by decide +kernel, left, recalled⟩

end Editor

end ChordEditor
