import ChordEditor.Proofs.Buffer.Rows
import ChordEditor.Proofs.Buffer.WordAt
import ChordEditor.Proofs.Session.CursorInText
import ChordEditor.Proofs.Session.Highlighting

namespace ChordEditor

/-!
# Going to a definition

What a module defines is read off the syntax tree of its text, by whatever parser has made
it (`Parser.DefinesAt`).  The parser counts rows, which LF ends (`Parser.CountsRows`), and
the buffer counts lines, which any break ends.  Going to a definition takes the row of the
name for its line.  So the cursor comes to the name exactly if only LF, or CR LF, ends
lines before it; one other break may stand right in front of the name.  If nothing is
found the cursor, the text and the jump list stay.
-/

namespace SyntaxTree

/-- A node is on top of a tree, or of a tree somewhere below. -/
inductive HasNode : SyntaxTree → SyntaxNode → Prop
  | top (tree : SyntaxTree) : tree.HasNode tree.top
  | ofChild
      {tree child : SyntaxTree}
      {node : SyntaxNode}
      (isChild : child ∈ tree.children)
      (has : child.HasNode node) :
      tree.HasNode node

/-- The first of the children of a tree that fills a field. -/
def FirstIn (tree : SyntaxTree) (field : String) (child : SyntaxTree) : Prop :=
  ∃ earlier later,
    tree.children = earlier ++ child :: later ∧
      child.top.field = some field ∧ ∀ other ∈ earlier, other.top.field ≠ some field

/-- A statement defines the name in a node; it may be a definition with decorators. -/
inductive Defines : SyntaxTree → SyntaxNode → Prop
  | plain
      {definition name : SyntaxTree}
      (isDefinition :
        definition.top.kind = "function_definition" ∨
          definition.top.kind = "class_definition")
      (named : definition.FirstIn "name" name) :
      definition.Defines name.top
  | decorated
      {statement definition name : SyntaxTree}
      (isDecorated : statement.top.kind = "decorated_definition")
      (inside : statement.FirstIn "definition" definition)
      (named : definition.FirstIn "name" name) :
      statement.Defines name.top

/-- The node in which the first statement of a module that defines a name has it. -/
def FirstDefines (root : SyntaxTree) (text name : List Char) (node : SyntaxNode) : Prop :=
  ∃ earlier statement later,
    root.statements = earlier ++ statement :: later ∧
      (statement.Defines node ∧ node.textIn? text = some name) ∧
        ∀ other ∈ earlier, ∀ named, other.Defines named → named.textIn? text ≠ some name

variable {tree : SyntaxTree} {node : SyntaxNode} {text name : List Char}

theorem hasNode_branch_iff
    {top : SyntaxNode}
    {below : List SyntaxTree} :
    (branch top below).HasNode node ↔ node = top ∨ ∃ child ∈ below, child.HasNode node := by
  constructor
  · intro has
    cases has with
    | top =>
        exact .inl rfl
    | ofChild isChild has =>
        exact .inr ⟨_, isChild, has⟩
  · rintro (rfl | ⟨child, isChild, has⟩)
    · exact .top (branch node below)
    · exact .ofChild isChild has

theorem childIn?_eq_some_iff
    {field : String}
    {child : SyntaxTree} :
    tree.childIn? field = some child ↔ tree.FirstIn field child := by
  unfold childIn? FirstIn
  rw [List.find?_eq_some_iff_append]
  constructor
  · rintro ⟨fills, earlier, later, shape, notEarlier⟩
    exact ⟨earlier, later, shape, by simpa using fills, by simpa using notEarlier⟩
  · rintro ⟨earlier, later, shape, fills, notEarlier⟩
    exact ⟨by simpa using fills, earlier, later, shape, by simpa using notEarlier⟩

/-- What a statement is seen to define is what it defines. -/
theorem nameNode?_eq_some_iff : tree.nameNode? = some node ↔ tree.Defines node := by
  constructor
  · intro isNode
    obtain ⟨definition, isDefinition, named⟩ := Option.bind_eq_some_iff.mp isNode
    obtain ⟨name, first, same⟩ := Option.bind_eq_some_iff.mp named
    cases same
    have hasName := childIn?_eq_some_iff.mp first
    unfold definition? at isDefinition
    split at isDefinition
    · rename_i isPlain
      cases isDefinition
      exact .plain isPlain hasName
    · split at isDefinition
      · rename_i isDecorated
        exact .decorated isDecorated (childIn?_eq_some_iff.mp isDefinition) hasName
      · cases isDefinition
  · intro defines
    cases defines with
    | plain isDefinition named =>
        unfold nameNode? definition?
        rw [if_pos isDefinition, Option.bind_eq_bind, Option.bind_some,
          childIn?_eq_some_iff.mpr named]
        rfl
    | decorated isDecorated inside named =>
        unfold nameNode? definition?
        rw [if_neg (by rw [isDecorated]; decide), if_pos isDecorated,
          childIn?_eq_some_iff.mpr inside, Option.bind_eq_bind, Option.bind_some,
          childIn?_eq_some_iff.mpr named]
        rfl

/-- The definition that is looked up is the first one of the name. -/
theorem definedName?_eq_some_iff {root : SyntaxTree} :
    root.definedName? text name = some node ↔ root.FirstDefines text name node := by
  have names (statement : SyntaxTree) (node : SyntaxNode) :
      (statement.nameNode?.filter fun node => node.textIn? text = some name) = some node ↔
        statement.Defines node ∧ node.textIn? text = some name := by
    rw [Option.filter_eq_some_iff, nameNode?_eq_some_iff, decide_eq_true_iff]
  have namesNot (statement : SyntaxTree) :
      (statement.nameNode?.filter fun node => node.textIn? text = some name) = none ↔
        ∀ node, statement.Defines node → node.textIn? text ≠ some name := by
    rw [Option.eq_none_iff_forall_ne_some]
    simp only [ne_eq, names, not_and]
  unfold definedName? FirstDefines
  rw [List.findSome?_eq_some_iff]
  simp only [names, namesNot]

end SyntaxTree

/--
How a parser places nodes: LF alone ends rows, and the column of a node is the number of
bytes before it in its row.
-/
def Parser.CountsRows (parser : Parser) : Prop :=
  ∀ text root,
    parser text = .ok root →
      ∀ node,
        root.HasNode node →
          ∀ place,
            Text.charsIn? node.startByte text = some place → node.start = .ofPlace text place

/-- A parser finds no fault in a text, and the first definition of a name at a place. -/
def Parser.DefinesAt (parser : Parser) (text name : List Char) (place : Nat) : Prop :=
  ∃ root node,
    parser text = .ok root ∧
      root.top.hasFault = false ∧
        root.FirstDefines text name node ∧ Text.charsIn? node.startByte text = some place

namespace SyntaxTree

/-- The node of a definition is one of the tree. -/
theorem FirstDefines.hasNode
    {root : SyntaxTree}
    {node : SyntaxNode}
    {text name : List Char}
    (defines : root.FirstDefines text name node) :
    root.HasNode node := by
  have hasFirst {tree child : SyntaxTree} {field : String} {node : SyntaxNode}
      (first : tree.FirstIn field child) (has : child.HasNode node) : tree.HasNode node := by
    obtain ⟨earlier, later, shape, -⟩ := first
    exact .ofChild (shape ▸ List.mem_append_right _ List.mem_cons_self) has
  obtain ⟨earlier, statement, later, shape, ⟨isDefined, -⟩, -⟩ := defines
  have isStatement : statement ∈ root.statements :=
    shape ▸ List.mem_append_right _ List.mem_cons_self
  refine .ofChild (List.mem_filter.mp isStatement).1 ?_
  cases isDefined with
  | plain isDefinition named =>
      exact hasFirst named (.top _)
  | decorated isDecorated inside named =>
      exact hasFirst inside (hasFirst named (.top _))

end SyntaxTree

/-- The text between two bytes begins at the first of them. -/
theorem Text.prefix_of_betweenBytes?
    {start stop : Nat}
    {text piece : List Char}
    (between : betweenBytes? start stop text = some piece) :
    ∃ place, charsIn? start text = some place ∧ piece <+: text.drop place := by
  obtain ⟨first, starts, between⟩ := Option.bind_eq_some_iff.mp between
  obtain ⟨last, stops, same⟩ := Option.bind_eq_some_iff.mp between
  cases same
  refine ⟨first, starts, ?_⟩
  rw [List.drop_take]
  exact List.take_prefix _ _

namespace DefinitionLookup

variable {parser : Parser} {grammar : String} {text name : List Char} {place : Nat}

/-- What is found is the location of the first definition. -/
theorem find_eq_found
    (countsRows : parser.CountsRows)
    (defined : parser.DefinesAt text name place) :
    find parser "python" text name = .found (.ofPoint text (Point.ofPlace text place)) := by
  obtain ⟨root, node, parsed, noFault, defines, starts⟩ := defined
  have begins := countsRows text root parsed node defines.hasNode place starts
  rw [find, if_pos rfl, parsed]
  dsimp only
  rw [findIn, noFault, if_neg Bool.false_ne_true,
    SyntaxTree.definedName?_eq_some_iff.mpr defines]
  dsimp only
  rw [begins]

/-- What is found is a definition. -/
theorem exists_definesAt_of_found
    {location : Location}
    (found : find parser grammar text name = .found location) :
    grammar = "python" ∧ ∃ place, parser.DefinesAt text name place := by
  unfold find at found
  split at found
  · rename_i isPython
    refine ⟨isPython, ?_⟩
    split at found
    · rename_i root parsed
      unfold findIn at found
      split at found
      · cases found
      · rename_i noFault
        split at found
        · rename_i node isDefined
          have defines := SyntaxTree.definedName?_eq_some_iff.mp isDefined
          have ⟨_, _, _, _, ⟨_, hasName⟩, _⟩ := defines
          obtain ⟨place, starts, -⟩ := Text.prefix_of_betweenBytes? hasName
          exact ⟨place, root, node, parsed, eq_false_of_ne_true noFault, defines, starts⟩
        · cases found
    · cases found
  · cases found

/-- The name stands at the place of its definition. -/
theorem prefix_of_definesAt
    (defined : parser.DefinesAt text name place) :
    name <+: text.drop place := by
  obtain ⟨root, node, -, -, ⟨_, _, _, _, ⟨_, hasName⟩, _⟩, starts⟩ := defined
  obtain ⟨first, begins, isPrefix⟩ := Text.prefix_of_betweenBytes? hasName
  cases begins.symm.trans starts
  exact isPrefix

end DefinitionLookup

namespace Editor

/-- The word at the cursor has its first definition at a place. -/
def DefinesWord (editor : Editor) (word : List Char) (place : Nat) : Prop :=
  (∃ span,
      editor.buffer.wordSpan? editor.position = some span ∧
        editor.buffer.spanText span = word) ∧
    editor.grammar.name = "python" ∧
      editor.grammars.parser.DefinesAt editor.buffer.text word place

/-- Where the word at the cursor is defined, if it is. -/
def LooksUp (editor : Editor) : Option Nat → Prop
  | some place => ∃ word, editor.DefinesWord word place
  | none => ∀ word place, ¬ editor.DefinesWord word place

/-- The place that the buffer has for the row and the bytes of another place. -/
def placeOfPoint (editor : Editor) (place : Nat) : Nat :=
  let location := Location.ofPoint editor.buffer.text (.ofPlace editor.buffer.text place)
  editor.buffer.offsetAt location.line location.column

theorem placeOfPoint_le
    (editor : Editor)
    (place : Nat) :
    editor.placeOfPoint place ≤ editor.buffer.length :=
  editor.buffer.offsetAt_le _ _

/--
The text stays, and the cursor and the jump list too unless there is a place to go to:
then the cursor is where the buffer has the point of that place.
-/
def GoesTo
    (found : Option Nat)
    (before after : Editor) : Prop :=
  after.buffer.text = before.buffer.text ∧
    match found with
    | some place =>
        after.window.cursor = .atPlace (before.placeOfPoint place) ∧
          after.jumps = before.jumps.push before.position
    | none =>
        after.window.cursor = before.window.cursor ∧ after.jumps = before.jumps

variable {editor : Editor}

theorem CursorInText.clamp_cursor (inText : editor.CursorInText) :
    editor.window.cursor.clamp editor.buffer.length = editor.window.cursor := by
  have anchor := Nat.min_eq_left inText.anchor
  have position := Nat.min_eq_left inText.position
  unfold Cursor.clamp
  unfold Editor.position at position
  rw [anchor, position]

/-- What is told of a definition that is not found changes neither text, cursor nor jumps. -/
theorem goesTo_nowhere (editor : Editor) (outcome : EventOutcome) :
    editor.GoesTo none { editor with outcome } :=
  ⟨rfl, rfl, rfl⟩

/-- Looking up a definition is never refused, and goes where there is one. -/
theorem gotoDefinition_goesTo
    {found : Option Nat}
    (countsRows : editor.grammars.parser.CountsRows)
    (looksUp : editor.LooksUp found) :
    ∃ after,
      editor.attempt Commands.gotoDefinition = (.ok (), after) ∧ editor.GoesTo found after := by
  show ∃ after, Commands.gotoDefinition.runOn editor = _ ∧ _
  unfold Commands.gotoDefinition
  rw [CommandM.runOn_get_bind]
  cases found with
  | some place =>
      obtain ⟨word, ⟨span, isSpan, rfl⟩, isPython, defined⟩ := looksUp
      rw [isSpan]
      dsimp only
      rw [isPython, DefinitionLookup.find_eq_found countsRows defined]
      refine ⟨_, rfl, rfl, ?_, rfl⟩
      dsimp only
      show Cursor.atPlace (editor.buffer.clamp (editor.placeOfPoint place)) = _
      rw [Buffer.clamp_of_le (editor.placeOfPoint_le place)]
  | none =>
      cases atCursor : editor.buffer.wordSpan? editor.position with
      | none =>
          exact ⟨_, rfl, editor.goesTo_nowhere _⟩
      | some span =>
          dsimp only
          cases looked :
              DefinitionLookup.find editor.grammars.parser editor.grammar.name
                editor.buffer.text (editor.buffer.spanText span) with
          | found location =>
              obtain ⟨isPython, place, defined⟩ :=
                DefinitionLookup.exists_definesAt_of_found looked
              exact absurd ⟨⟨span, atCursor, rfl⟩, isPython, defined⟩ (looksUp _ place)
          | notFound | unsupported | brokenText line | noParser reason =>
              exact ⟨_, rfl, editor.goesTo_nowhere _⟩

theorem runAction_gotoDefinition_goesTo
    {found : Option Nat}
    (countsRows : editor.grammars.parser.CountsRows)
    (looksUp : editor.LooksUp found)
    (context : CommandContext) :
    editor.GoesTo found (editor.runAction .gotoDefinition context) := by
  obtain ⟨after, ended, goes⟩ :=
    @gotoDefinition_goesTo (editor.beginGroup Action.gotoDefinition.name) found countsRows
      looksUp
  rw [runAction_of_ended ended]
  split <;> exact goes

/-- Ending an event leaves the cursor where it went, for that is in the text. -/
theorem GoesTo.finishEvent
    {after : Editor}
    {found : Option Nat}
    (goes : editor.GoesTo found after)
    (inText : editor.CursorInText)
    (modeBefore : Mode)
    (handled : Bool) :
    editor.GoesTo found (after.finishEvent modeBefore handled).2 := by
  obtain ⟨sameText, arrives⟩ := goes
  have sameLength : after.buffer.length = editor.buffer.length :=
    congrArg List.length sameText
  have sameJumps : (after.finishEvent modeBefore handled).2.jumps = after.jumps := by
    obtain ⟨buffer, window, highlight, search, outcome, finished⟩ :=
      after.finishEvent_eq modeBefore handled
    rw [finished]
  unfold GoesTo
  rw [finishEvent_buffer, finishEvent_cursor, sameLength, sameJumps]
  refine ⟨sameText, ?_⟩
  cases found with
  | none =>
      refine ⟨?_, arrives.2⟩
      rw [arrives.1, inText.clamp_cursor]
  | some place =>
      refine ⟨?_, arrives.2⟩
      rw [arrives.1]
      exact congrArg Cursor.atPlace (Nat.min_eq_left (editor.placeOfPoint_le place))

/-- However it is asked for, going to a definition ends where the buffer has its point. -/
theorem run_gotoDefinition_goesTo
    {found : Option Nat}
    (countsRows : editor.grammars.parser.CountsRows)
    (looksUp : editor.LooksUp found)
    {operation : Operation}
    {context : CommandContext}
    (asked : operation.actionOn? editor = some (.gotoDefinition, context))
    (inText : editor.CursorInText) :
    editor.GoesTo found (operation.run editor) := by
  obtain ⟨dispatcher, modeBefore, handled, after⟩ := Operation.run_of_action asked
  have goes :
      editor.GoesTo found
        ({ editor.fresh with dispatcher }.runAction .gotoDefinition context) :=
    @runAction_gotoDefinition_goesTo { editor.fresh with dispatcher } found countsRows looksUp
      context
  rw [after]
  exact goes.finishEvent inText modeBefore handled

/--
A word stands at the place of its definition, and the point of the place leads there
exactly if only LF ends lines before it, but for one other break right in front.
-/
theorem placeOfPoint_of_definesWord
    {word : List Char}
    {place : Nat}
    (defined : editor.DefinesWord word place) :
    word <+: editor.buffer.text.drop place ∧
      (editor.placeOfPoint place = place ↔
        Text.OnlyNewlines (editor.buffer.text.take place) ∨
          Text.EndsWithOtherBreak (editor.buffer.text.take place)) := by
  obtain ⟨⟨span, found, rfl⟩, -, definedThere⟩ := defined
  have begins := DefinitionLookup.prefix_of_definesAt definedThere
  refine ⟨begins, ?_⟩
  have isWord := Buffer.wordSpan_isWord found
  obtain ⟨c, rest, word⟩ := List.exists_cons_of_ne_nil isWord.spanText_ne_nil
  have goesOn : c ≠ '\n' := by
    rintro rfl
    have wordChar := isWord.wordChar (word ▸ List.mem_cons_self)
    contradiction
  rw [word] at begins
  obtain ⟨behind, ahead⟩ := begins
  rw [List.cons_append] at ahead
  have cut : editor.buffer.text = editor.buffer.text.take place ++ c :: (rest ++ behind) := by
    rw [ahead, List.take_append_drop]
  have reached : (editor.buffer.text.take place).length = place := by
    have someAhead := congrArg List.length ahead
    rw [List.length_cons, List.length_drop] at someAhead
    rw [List.length_take]
    omega
  have apart :
      Text.joinsBreak (editor.buffer.text.take place) (c :: (rest ++ behind)) = false := by
    simp [Text.joinsBreak, goesOn]
  have arrives := Buffer.offsetAt_row_iff cut apart
  have located :=
    Location.ofPoint_ofPlace (editor.buffer.text.take place) (rest ++ behind) goesOn
  rw [← cut, reached] at located
  unfold placeOfPoint
  rw [located]
  dsimp only
  rwa [reached] at arrives

/-- A session keeps the grammars that it knows, and the parser with them. -/
theorem run_grammars (editor : Editor) (operation : Operation) :
    (operation.run editor).grammars = editor.grammars := by
  cases isWorked : operation.worked? editor with
  | some worked =>
      obtain ⟨handled, after⟩ := Operation.run_of_worked isWorked
      obtain ⟨buffer, window, highlight, search, outcome, finished⟩ :=
        worked.finishEvent_eq _ handled
      rw [after, finished]
      exact (Operation.worked_looks isWorked).2.2
  | none =>
      cases operation with
      | handleKey event | execute action context | submitCommandLine input =>
          cases isWorked
      | loadSource source text =>
          show (editor.loadSource source text).grammars = editor.grammars
          unfold loadSource recallCursor rememberCursor
          split <;> split <;> rfl
      | setGrammar name =>
          rw [Operation.run_setGrammar]
          split <;> rfl

/-- A session keeps the grammars and the parser that it is started with. -/
theorem afterAll_grammars
    {config : Config}
    {grammars : GrammarRegistry}
    {text : List Char}
    {started : Editor}
    (isStarted : start config grammars text = .ok started)
    (operations : List Operation) :
    (started.afterAll operations).grammars = grammars := by
  have atStart : started.grammars = grammars := by
    unfold start at isStarted
    cases found : grammars.get config.settings.grammar with
    | error error =>
        rw [found] at isStarted
        cases isStarted
    | ok grammar =>
        rw [found] at isStarted
        cases isStarted
        rfl
  clear isStarted
  induction operations generalizing started with
  | nil =>
      exact atStart
  | cons operation operations inductionHypothesis =>
      exact inductionHypothesis ((run_grammars started operation).trans atStart)

/--
However going to the definition of the word at the cursor is asked for, the text stays.
If the word has no definition the cursor and the jump list stay too.  If it has one, the
jump list gets the place that is left, and the cursor comes to the definition exactly if
only LF, or CR LF, ends lines before it, but for one other break that it may stand right
behind; then the word is what the text goes on with at the cursor.
-/
theorem cursor_at_definition_iff
    {config : Config}
    {grammars : GrammarRegistry}
    {text : List Char}
    {started : Editor}
    (isStarted : start config grammars text = .ok started)
    (countsRows : grammars.parser.CountsRows)
    (operations : List Operation)
    {operation : Operation}
    {context : CommandContext}
    (asked :
      operation.actionOn? (started.afterAll operations) = some (.gotoDefinition, context)) :
    let before := started.afterAll operations
    let after := operation.run before
    after.buffer.text = before.buffer.text ∧
      ((∀ word place, ¬ before.DefinesWord word place) →
        after.window.cursor = before.window.cursor ∧ after.jumps = before.jumps) ∧
      ∀ word place,
        before.DefinesWord word place →
          let front := before.buffer.text.take place
          after.jumps = before.jumps.push before.position ∧
            word <+: before.buffer.text.drop place ∧
              (after.window.cursor = .atPlace place ↔
                Text.OnlyNewlines front ∨ Text.EndsWithOtherBreak front) := by
  intro before after
  have inText := afterAll_cursorInText isStarted operations
  have countsRowsStill : before.grammars.parser.CountsRows := by
    rw [afterAll_grammars isStarted operations]
    exact countsRows
  refine ⟨?_, ?_, ?_⟩
  · -- Whether the word has a definition or not, there is an answer to the question.
    by_cases defined : ∃ word place, before.DefinesWord word place
    · obtain ⟨word, place, defines⟩ := defined
      exact (@run_gotoDefinition_goesTo before (some place) countsRowsStill ⟨word, defines⟩ _ _
        asked inText).1
    · exact (@run_gotoDefinition_goesTo before none countsRowsStill
        (fun word place defines => defined ⟨word, place, defines⟩) _ _ asked inText).1
  · intro undefined
    exact (@run_gotoDefinition_goesTo before none countsRowsStill undefined _ _ asked inText).2
  · intro word place defined
    obtain ⟨-, arrives, jumps⟩ :=
      @run_gotoDefinition_goesTo before (some place) countsRowsStill ⟨word, defined⟩ _ _ asked
        inText
    obtain ⟨stands, arrivesIff⟩ := placeOfPoint_of_definesWord defined
    refine ⟨jumps, stands, ?_⟩
    rw [← arrivesIff]
    constructor
    · intro isThere
      exact congrArg Cursor.position (arrives.symm.trans isThere)
    · intro same
      rw [← same]
      exact arrives

section Demo

/-- A module with a form feed in its comment. -/
def demoSource : List Char :=
  "#\x0c\ndef f(): pass\nf".toList

/-- A node of the module over some of its characters, each of which is one byte. -/
def demoNode (kind : String) (place length : Nat) : SyntaxNode :=
  { kind, start := .ofPlace demoSource place, startByte := place, stopByte := place + length }

/-- A mark or a word of the grammar in the module. -/
def demoMark (mark : String) (place : Nat) : SyntaxTree :=
  .branch { demoNode mark place mark.length with isNamed := false } []

/-- The syntax tree of the module. -/
def demoTree : SyntaxTree :=
  .branch (demoNode "module" 0 18)
    [ .branch (demoNode "comment" 0 2) [],
      .branch (demoNode "function_definition" 3 13)
        [ demoMark "def" 3,
          .branch { demoNode "identifier" 7 1 with field := some "name" } [],
          .branch { demoNode "parameters" 8 2 with field := some "parameters" }
            [demoMark "(" 8, demoMark ")" 9],
          demoMark ":" 10,
          .branch { demoNode "block" 12 4 with field := some "body" }
            [.branch (demoNode "pass_statement" 12 4) [demoMark "pass" 12]] ],
      .branch (demoNode "expression_statement" 17 1)
        [.branch (demoNode "identifier" 17 1) []] ]

/-- A parser that has been taught this one module. -/
def demoParser : Parser := fun text =>
  if text = demoSource then .ok demoTree else .error "none for this text"

/-- The parser places the nodes of the module by the rows of its text. -/
theorem demoParser_countsRows : demoParser.CountsRows := by
  intro text root parsed node has place starts
  unfold demoParser at parsed
  split at parsed
  · rename_i isDemo
    subst isDemo
    cases parsed
    have placed : node.startByte ≤ 18 ∧ node.start = .ofPlace demoSource node.startByte := by
      simp only [demoTree, demoMark, SyntaxTree.hasNode_branch_iff, List.mem_cons,
        List.not_mem_nil, or_false, exists_eq_or_imp, exists_eq_left, false_and, exists_false,
        or_assoc] at has
      rcases has with
        rfl | rfl | rfl | rfl | rfl | rfl | rfl | rfl | rfl | rfl | rfl | rfl | rfl | rfl <;>
        exact ⟨by decide, rfl⟩
    have oneByteEach : ∀ place ≤ 18, Text.charsIn? place demoSource = some place := by
      decide +kernel
    rw [oneByteEach _ placed.1] at starts
    rw [placed.2, Option.some.inj starts]
  · cases parsed

/-- What a session with the module knows. -/
def moduleGrammars : GrammarRegistry :=
  { demoGrammars with parser := demoParser }

/-- A session with the module. -/
def demoModule : Editor :=
  (start demoConfig moduleGrammars demoSource).toOption.get rfl

theorem start_demoModule : start demoConfig moduleGrammars demoSource = .ok demoModule :=
  rfl

/-- Behind the form feed the cursor does not come to the definition, but above it. -/
theorem form_feed_before_definition :
    let atEnd := demoModule.afterAll [.execute (.move .documentEnd) {}]
    let asked := Operation.execute .gotoDefinition {}
    asked.actionOn? atEnd = some (.gotoDefinition, {}) ∧
      demoParser.CountsRows ∧
        atEnd.DefinesWord ['f'] 7 ∧
          (asked.run atEnd).window.cursor = .atPlace 2 ∧
            ¬ (Text.OnlyNewlines (demoSource.take 7) ∨
              Text.EndsWithOtherBreak (demoSource.take 7)) := by
  intro atEnd asked
  have isAsked : asked.actionOn? atEnd = some (.gotoDefinition, {}) := rfl
  have isName :
      demoTree.definedName? demoSource ['f'] =
        some { demoNode "identifier" 7 1 with field := some "name" } := by
    decide +kernel
  have defined : atEnd.DefinesWord ['f'] 7 :=
    ⟨⟨⟨17, 18⟩, by decide +kernel, by decide +kernel⟩, rfl, demoTree, _, rfl, rfl,
      SyntaxTree.definedName?_eq_some_iff.mp isName, by decide +kernel⟩
  have arrives : (asked.run atEnd).window.cursor = .atPlace 2 := by
    decide +kernel
  refine ⟨isAsked, demoParser_countsRows, defined, arrives, ?_⟩
  intro onlyOneOther
  obtain ⟨-, -, comesThere⟩ :=
    cursor_at_definition_iff start_demoModule demoParser_countsRows
      [.execute (.move .documentEnd) {}] isAsked
  have isThere := (comesThere ['f'] 7 defined).2.2.mpr onlyOneOther
  exact absurd (arrives.symm.trans isThere) (by decide)

end Demo

end Editor

end ChordEditor
