import ChordEditor.Proofs.Highlight.Rounds
import ChordEditor.Proofs.Highlight.Update

namespace ChordEditor.Highlight

/-!
# Line by line and as a whole

Lines are highlighted one by one, and all that one knows of those before it is the number
of a construct.  What the constructs of a table paint is nevertheless what one scan of the
whole text gives (`scannedAsWhole`).

A number has eight bits.  A grammar can be built from any parts that can be read but for
those with more constructs than there are numbers (`scannedAsWhole_unless_refused`).
-/

variable {grammar : Grammar} {holder : Holder grammar.constructs} {text : List Char}

/-- The scan of the rest of a line, from a place outside of constructs. -/
def scanFrom
    (grammar : Grammar)
    (column : Nat)
    (text : List Char) : List Paint × CarryState :=
  (grammar.scanOn? [] column text).getD ([], none)

/-- The scan from a place inside the region of a construct that begins at `start`. -/
def scanInside
    (grammar : Grammar)
    (start : Nat)
    (holder : Holder grammar.constructs)
    (column : Nat)
    (text : List Char) : List Paint × CarryState :=
  match Text.indexOf? holder.construct.closing text with
  | none =>
      ([⟨start, column + text.length, holder.construct.tokenClass⟩], some holder.number)
  | some offset =>
      let stop := offset + holder.construct.closing.length
      let (paints, carry) := scanFrom grammar (column + stop) (text.drop stop)
      (⟨start, column + stop, holder.construct.tokenClass⟩ :: paints, carry)

/-- The scan from a place inside a region that begins at `start`, or outside of all. -/
def scan
    (grammar : Grammar)
    (start : Nat) :
    Option (Holder grammar.constructs) → Nat → List Char → List Paint × CarryState
  | none, column, text => scanFrom grammar column text
  | some holder, column, text => scanInside grammar start holder column text

theorem scanFrom_of_not_opening
    {c : Char}
    (opensNothing : opening? grammar.constructs (c :: text) = none)
    (column : Nat) :
    scanFrom grammar column (c :: text) = scanFrom grammar (column + 1) text := by
  rw [scanFrom, scanFrom, Grammar.scanOn?, Grammar.scanOn?, constructStep, constructStep,
    earliestOpen?_of_not_opening opensNothing]
  cases earliestOpen? grammar.constructs text with
  | none =>
      rfl
  | some opening =>
      obtain ⟨start, number⟩ := opening
      dsimp only [Option.map_some, Prod.map, id]
      cases grammar.construct? number with
      | none =>
          rfl
      | some construct =>
          dsimp only
          rw [Nat.add_right_comm, List.drop_succ_cons]
          cases Text.indexOf? construct.closing
              (text.drop (start + construct.opening.length)) with
          | none =>
              dsimp only
              rw [List.length_cons, Nat.add_assoc, Nat.add_assoc, Nat.add_comm 1,
                Nat.add_comm 1]
          | some offset =>
              dsimp only
              have oneMore :
                  start + construct.opening.length + 1 + offset + construct.closing.length =
                    start + construct.opening.length + offset + construct.closing.length + 1 := by
                omega
              rw [oneMore, List.drop_succ_cons]
              simp only [Nat.add_lt_add_iff_right]
              simp only [Nat.add_assoc, Nat.add_comm, Nat.add_left_comm]

section Steps

variable (withinLines : WithinLines grammar.constructs)

include withinLines

/-- A scan goes on from what has been painted as it does from nothing. -/
theorem scanOn?_eq
    (painted : List Paint)
    (column : Nat)
    (text : List Char) :
    grammar.scanOn? painted column text =
      some
        (painted.reverse ++ (scanFrom grammar column text).1,
          (scanFrom grammar column text).2) := by
  have takesSome : ∀ construct ∈ grammar.constructs, ¬ construct.TakesNothing :=
    fun construct member takesNothing =>
      withinLines.opening_ne_nil construct member takesNothing.1
  obtain ⟨⟨paints, carry⟩, ends⟩ := exists_scanOn? takesSome [] column text
  obtain ⟨found, rfl, anyBefore⟩ := exists_found_of_scanOn? ends
  rw [scanFrom, ends, anyBefore painted]
  rfl

theorem scanFrom_nil (column : Nat) :
    scanFrom grammar column [] = ([], none) := by
  rw [scanFrom, Grammar.scanOn?, constructStep, earliestOpen?_nil withinLines]
  rfl

theorem scanFrom_of_opening
    (opens : opening? grammar.constructs text = some holder)
    (column : Nat) :
    scanFrom grammar column text =
      scanInside grammar column holder (column + holder.construct.opening.length)
        (text.drop holder.construct.opening.length) := by
  have fits := (prefix_of_opening? opens).length_le
  have notEmpty :=
    List.length_pos_iff.mpr (withinLines.opening_ne_nil _ holder.construct_mem)
  rw [scanFrom, Grammar.scanOn?, scanInside, constructStep, earliestOpen?_of_opening opens]
  dsimp only
  rw [holder.construct?_number]
  dsimp only
  rw [Nat.zero_add]
  cases closes :
      Text.indexOf? holder.construct.closing
        (text.drop holder.construct.opening.length) with
  | none =>
      dsimp only
      rw [List.length_drop, Nat.add_zero, Nat.add_assoc, Nat.add_sub_cancel' fits]
      rfl
  | some offset =>
      dsimp only
      rw [if_pos (by omega), scanOn?_eq withinLines]
      simp only [Option.getD_some, List.reverse_singleton, List.singleton_append,
        List.drop_drop, Nat.add_zero, Nat.add_assoc]

/-- What a scan leaves open is what holds the end. -/
theorem scan_carry
    (incoming : Option (Holder grammar.constructs))
    (start column : Nat)
    (text : List Char) :
    (scan grammar start incoming column text).2 =
      (holderAtEnd grammar.constructs incoming text).map Holder.number := by
  induction incoming, text using holders_induction withinLines generalizing start column with
  | atEnd =>
      rw [scan, scanFrom_nil withinLines, holderAtEnd, holders, holdersOutside]
      rfl
  | passes c rest opensNothing inductionHypothesis =>
      rw [holderAtEnd_of_append withinLines (holders_of_not_opening opensNothing),
        ← inductionHypothesis start (column + 1), scan,
        scanFrom_of_not_opening opensNothing, scan]
  | opens holder text opens inductionHypothesis =>
      rw [holderAtEnd_of_append withinLines (holders_of_opening withinLines opens),
        ← inductionHypothesis column (column + holder.construct.opening.length), scan,
        scanFrom_of_opening withinLines opens, scan]
  | stays holder text closesNowhere =>
      rw [holderAtEnd_of_not_closing closesNowhere, scan, scanInside, closesNowhere]
      rfl
  | closes holder text offset closes inductionHypothesis =>
      have behind :=
        inductionHypothesis start (column + (offset + holder.construct.closing.length))
      rw [holderAtEnd_of_append withinLines (holders_of_closing closes), ← behind]
      simp only [scan, scanInside, closes]

end Steps

/-- A paint on columns that have no class yet. -/
theorem layOn_replicate
    (done : List (Option TokenClass))
    (width rest : Nat)
    (tokenClass : TokenClass) :
    layOn (done ++ List.replicate (width + rest) none)
        ⟨done.length, done.length + width, tokenClass⟩ =
      done ++ List.replicate width (some tokenClass) ++ List.replicate rest none := by
  apply List.ext_getElem
  · simp [layOn]
  · intro column inBefore inAfter
    simp only [layOn, List.getElem_mapIdx, List.getElem_append, List.getElem_replicate,
      List.length_append, List.length_replicate]
    grind

/-- The class that a place has from what holds it. -/
def classOf {constructs : List Construct} (holder : Option (Holder constructs)) :
    Option TokenClass :=
  holder.map fun holder => holder.construct.tokenClass

/-- The paints of a scan give each column the class of what holds it. -/
theorem scan_paints
    (withinLines : WithinLines grammar.constructs)
    (incoming : Option (Holder grammar.constructs))
    (text : List Char)
    (done : List (Option TokenClass))
    (width : Nat)
    (onlyInside : incoming = none → width = 0) :
    (scan grammar done.length incoming (done.length + width) text).1.foldl layOn
        (done ++ List.replicate (width + text.length) none) =
      done ++ List.replicate width (classOf incoming) ++
        (holders grammar.constructs incoming text).dropLast.map classOf := by
  -- The paint of a region is laid on only where it ends.  Inside of it `width` columns of it
  -- are behind the scan and still without a class.
  induction incoming, text using holders_induction withinLines generalizing done width with
  | atEnd =>
      rw [scan, scanFrom_nil withinLines, holders, holdersOutside, onlyInside rfl]
      simp
  | passes c rest opensNothing inductionHypothesis =>
      have painted := inductionHypothesis (done ++ [none]) 0 (fun _ => rfl)
      rw [holders_of_not_opening opensNothing,
        List.dropLast_append_of_ne_nil (holders_ne_nil withinLines _ _), onlyInside rfl, scan,
        scanFrom_of_not_opening opensNothing]
      simpa [scan, List.replicate_succ, classOf] using painted
  | opens holder text opens inductionHypothesis =>
      have fits := (prefix_of_opening? opens).length_le
      have painted :=
        inductionHypothesis done holder.construct.opening.length fun isNone =>
          absurd isNone (Option.some_ne_none holder)
      rw [List.length_drop, Nat.add_sub_cancel' fits] at painted
      rw [holders_of_opening withinLines opens,
        List.dropLast_append_of_ne_nil (holders_ne_nil withinLines _ _), onlyInside rfl, scan,
        scanFrom_of_opening withinLines opens]
      simpa [scan] using painted
  | stays holder text closesNowhere =>
      rw [scan, scanInside, closesNowhere, holders_of_not_closing closesNowhere,
        List.foldl_cons, List.foldl_nil, Nat.add_assoc]
      have painted :=
        layOn_replicate done (width + text.length) 0 holder.construct.tokenClass
      simpa [classOf, List.replicate_append_replicate] using painted
  | closes holder text offset closes inductionHypothesis =>
      have fits := Text.indexOf?_bound closes
      have painted :=
        layOn_replicate done (width + (offset + holder.construct.closing.length))
          (text.length - (offset + holder.construct.closing.length))
          holder.construct.tokenClass
      have paintedBehind :=
        inductionHypothesis
          (done ++
            List.replicate (width + (offset + holder.construct.closing.length))
              (some holder.construct.tokenClass))
          0 (fun _ => rfl)
      rw [holders_of_closing closes,
        List.dropLast_append_of_ne_nil (holders_ne_nil withinLines _ _)]
      have wholeWidth :
          width + text.length =
            width + (offset + holder.construct.closing.length) +
              (text.length - (offset + holder.construct.closing.length)) := by
        omega
      simp only [scan, scanInside, closes, List.foldl_cons]
      rw [wholeWidth, Nat.add_assoc done.length, painted]
      simpa [scan, classOf, ← List.replicate_append_replicate] using paintedBehind

/-- What holds a place of a text in one scan of it. -/
def holderAt
    (constructs : List Construct)
    (text : List Char)
    (place : Nat) : Option (Holder constructs) :=
  ((holders constructs none text)[place]?).join

/--
Threaded through lines, the scans of single lines find what one scan of the lines joined
by newlines finds: the state after a line is the number of the construct that holds the
end of the line, and the paints give each column the class of what holds it.
-/
structure ScannedAsWhole (grammar : Grammar) (texts : List (List Char)) : Prop where
  state :
    ∀ before text after,
      texts = before ++ text :: after →
        (HighlightCache.statesOf grammar none texts)[before.length]? =
          some
            ((holderAt grammar.constructs (List.intercalate ['\n'] texts)
              (placeBehind before + text.length)).map Holder.number)
  painted :
    ∀ before text after,
      texts = before ++ text :: after →
        ∀ column < text.length,
          (columnClasses text.length
            (scanConstructs grammar text
              (HighlightCache.carryThrough grammar none before)).1)[column]? =
            some
              (classOf
                (holderAt grammar.constructs (List.intercalate ['\n'] texts)
                  (placeBehind before + column)))

/-- A place of a line among others is held by what holds it in the line alone. -/
theorem holderAt_of_lines
    {constructs : List Construct}
    (withinLines : WithinLines constructs)
    (before after : List (List Char))
    (text : List Char)
    {place : Nat}
    (inside : place ≤ text.length) :
    holderAt constructs (List.intercalate ['\n'] (before ++ text :: after))
        (placeBehind before + place) =
      ((holders constructs (holderBehind constructs none before) text)[place]?).join := by
  obtain ⟨front, behind, reached, shape⟩ := holders_of_lines withinLines none before after text
  have inLine :
      place < (holders constructs (holderBehind constructs none before) text).length := by
    rw [length_holders withinLines]
    exact Nat.lt_succ_of_le inside
  rw [holderAt, shape, ← reached, List.getElem?_append_right (Nat.le_add_right _ _),
    Nat.add_sub_cancel_left, List.getElem?_append_left inLine]

theorem scanConstructs_eq
    (withinLines : WithinLines grammar.constructs)
    (incoming : Option (Holder grammar.constructs))
    (text : List Char) :
    scanConstructs grammar text (incoming.map Holder.number) =
      scan grammar 0 incoming 0 text := by
  cases incoming with
  | none =>
      rfl
  | some holder =>
      rw [scan, scanInside, scanConstructs, scanConstructs?, Option.map_some,
        Option.bind_some, holder.construct?_number]
      dsimp only
      cases Text.indexOf? holder.construct.closing text with
      | none =>
          dsimp only [Option.getD_some]
          rw [Nat.zero_add]
      | some offset =>
          dsimp only
          rw [Nat.zero_add, scanOn?_eq withinLines]
          rfl

section Lines

variable (withinLines : WithinLines grammar.constructs)

include withinLines

/-- What is carried into a line and out of it tells what holds its start and its end. -/
theorem carryAfter_eq_number
    (incoming : Option (Holder grammar.constructs))
    (text : List Char) :
    carryAfter grammar text (incoming.map Holder.number) =
      (holderAtEnd grammar.constructs incoming text).map Holder.number := by
  rw [carryAfter, scanConstructs_eq withinLines, scan_carry withinLines]

/-- What is carried through lines tells what holds the start of the line behind them. -/
theorem carryThrough_eq_number
    (incoming : Option (Holder grammar.constructs))
    (texts : List (List Char)) :
    HighlightCache.carryThrough grammar (incoming.map Holder.number) texts =
      (holderBehind grammar.constructs incoming texts).map Holder.number := by
  induction texts generalizing incoming with
  | nil =>
      rfl
  | cons text texts inductionHypothesis =>
      have behind :=
        inductionHypothesis (holderAtEnd grammar.constructs incoming text)
      rw [← carryAfter_eq_number withinLines] at behind
      exact behind

/-- The lines of a text are scanned as the whole is. -/
theorem scannedAsWhole
    (texts : List (List Char)) :
    ScannedAsWhole grammar texts := by
  constructor
  · rintro before text after rfl
    have atEnd :
        holderBehind grammar.constructs none (before ++ [text]) =
          holderAtEnd grammar.constructs (holderBehind grammar.constructs none before) text :=
      List.foldl_append
    have carried := carryThrough_eq_number withinLines none (before ++ [text])
    rw [holderAt_of_lines withinLines _ _ _ (Nat.le_refl _),
      getElem?_holders_length withinLines, ← atEnd, ← carried, HighlightCache.statesOf_append,
      List.getElem?_append_right (Nat.le_of_eq (HighlightCache.length_statesOf _ _)),
      HighlightCache.length_statesOf, Nat.sub_self, HighlightCache.carryThrough,
      HighlightCache.carryThrough, List.foldl_append]
    rfl
  · rintro before text after rfl column inside
    have carried := carryThrough_eq_number withinLines none before
    have painted :=
      scan_paints withinLines (holderBehind grammar.constructs none before) text [] 0
        fun _ => rfl
    have inLine : column < text.length + 1 :=
      Nat.lt_succ_of_lt inside
    rw [Option.map_none] at carried
    simp only [List.nil_append, List.length_nil, Nat.zero_add, List.replicate_zero] at painted
    rw [holderAt_of_lines withinLines _ _ _ (Nat.le_of_lt inside), carried,
      scanConstructs_eq withinLines, columnClasses, painted, List.getElem?_map,
      List.getElem?_dropLast,
      length_holders withinLines, Nat.add_sub_cancel, if_pos inside,
      List.getElem?_eq_getElem (by rwa [length_holders withinLines])]
    rfl

end Lines

section Building

variable {part : GrammarPart} {parts : List GrammarPart}

/-- The construct that a part of a grammar puts into its table. -/
def constructOf? : GrammarPart → Option Construct
  | .construct opening closing tokenClass =>
      some ⟨opening.toList, closing.toList, tokenClass⟩
  | _ => none

/-- The table of constructs that some parts make up. -/
def constructsOf (parts : List GrammarPart) : List Construct :=
  parts.filterMap constructOf?

/-- The pattern of a part can be read, if it is a written one. -/
def IsReadable : GrammarPart → Prop
  | .rule source _ _ => (Pattern.read? source.toList).isSome
  | _ => True

/-- A part that can be read is added, unless there is no number left for its construct. -/
theorem add_cases
    (grammar : Grammar)
    (readable : IsReadable part) :
    (∃ added,
        grammar.add part = .ok added ∧
          added.constructs = grammar.constructs ++ (constructOf? part).toList) ∨
      grammar.add part = .error .numberOverflow ∧
        (constructOf? part).isSome ∧ grammar.constructs.length = 255 := by
  cases part with
  | rule source group tokenClass =>
      obtain ⟨pattern, isRead⟩ := Option.isSome_iff_exists.mp readable
      let rule : GrammarRule := { source, pattern, group, tokenClass }
      refine
        .inl ⟨{ grammar with rules := grammar.rules ++ [rule] }, ?_, (List.append_nil _).symm⟩
      rw [Grammar.add, GrammarRule.ofSource, isRead]
      rfl
  | words words tokenClass =>
      exact .inl ⟨_, rfl, (List.append_nil _).symm⟩
  | symbols symbols tokenClass =>
      exact .inl ⟨_, rfl, (List.append_nil _).symm⟩
  | construct opening closing tokenClass =>
      have numbered := grammar.numbered
      by_cases room : grammar.constructs.length < 255
      · exact .inl ⟨_, dif_pos room, rfl⟩
      · exact .inr ⟨dif_neg room, rfl, by omega⟩

/-- Parts that can be read are added, unless there are not enough numbers for them. -/
theorem foldlM_add
    (grammar : Grammar)
    (readable : ∀ part ∈ parts, IsReadable part) :
    ((grammar.constructs ++ constructsOf parts).length ≤ 255 →
        ∃ built,
          parts.foldlM Grammar.add grammar = .ok built ∧
            built.constructs = grammar.constructs ++ constructsOf parts) ∧
      (255 < (grammar.constructs ++ constructsOf parts).length →
        parts.foldlM Grammar.add grammar = .error .numberOverflow) := by
  induction parts generalizing grammar with
  | nil =>
      rw [constructsOf, List.filterMap_nil, List.append_nil]
      exact ⟨fun _ => ⟨grammar, rfl, rfl⟩, fun tooMany =>
        absurd grammar.numbered (Nat.not_le_of_gt tooMany)⟩
  | cons part parts inductionHypothesis =>
      obtain ⟨partReadable, othersReadable⟩ := List.forall_mem_cons.mp readable
      have table :
          constructsOf (part :: parts) = (constructOf? part).toList ++ constructsOf parts := by
        rw [constructsOf, List.filterMap_cons]
        cases constructOf? part <;> rfl
      rw [table, List.foldlM_cons, ← List.append_assoc]
      obtain ⟨added, isAdded, isTable⟩ | ⟨isRefused, isConstruct, isFull⟩ :=
        add_cases grammar partReadable
      · rw [isAdded, ← isTable]
        exact inductionHypothesis added othersReadable
      · obtain ⟨construct, isSome⟩ := Option.isSome_iff_exists.mp isConstruct
        rw [isSome, isRefused, List.length_append, List.length_append, Option.toList_some,
          List.length_singleton]
        exact ⟨fun fits => by omega, fun _ => rfl⟩

end Building

/--
From parts that can be read a grammar with their constructs is built if there are at most
255; building one with more stops the program.  Whenever the delimiters lie within lines,
highlighting line by line finds what one scan of the whole text finds, in every grammar
with these constructs.
-/
theorem scannedAsWhole_unless_refused
    (name commentMarker : String)
    {parts : List GrammarPart}
    (readable : ∀ part ∈ parts, IsReadable part)
    (withinLines : WithinLines (constructsOf parts)) :
    let built := Grammar.ofParts name commentMarker parts
    ((constructsOf parts).length ≤ 255 →
        ∃ grammar, built = .ok grammar ∧ grammar.constructs = constructsOf parts) ∧
      (255 < (constructsOf parts).length → built = .error .numberOverflow) ∧
        ∀ grammar : Grammar,
          grammar.constructs = constructsOf parts →
            ∀ texts : List (List Char), ScannedAsWhole grammar texts := by
  intro built
  obtain ⟨fits, overflows⟩ :=
    foldlM_add { name, commentMarker := commentMarker.toList } readable
  refine ⟨fits, overflows, ?_⟩
  intro grammar sameConstructs texts
  rw [← sameConstructs] at withinLines
  exact scannedAsWhole withinLines texts

/-- Parts with one construct more than there are numbers for. -/
def crowdedParts : List GrammarPart :=
  List.replicate 255 (.construct "<" ">" .string) ++ [.construct "(" ")" .comment]

theorem length_constructsOf_crowdedParts : (constructsOf crowdedParts).length = 256 := by
  rw [constructsOf, crowdedParts, List.filterMap_append, List.length_append,
    List.filterMap_replicate_of_some (f := constructOf?) rfl, List.length_replicate]
  rfl

/--
The last of 256 constructs finds no number, although its delimiters lie within lines.
Alone it does, and is scanned over the end of a line as in the whole text.
-/
theorem crowded_grammar_refused :
    (WithinLines (constructsOf crowdedParts) ∧
        Grammar.ofParts "crowded" "#" crowdedParts = .error .numberOverflow) ∧
      ∃ grammar,
        Grammar.ofParts "notes" "#" [.construct "(" ")" .comment] = .ok grammar ∧
          ScannedAsWhole grammar [['('], ['x']] := by
  have inTable (construct : Construct) (member : construct ∈ constructsOf crowdedParts) :
      construct = ⟨['<'], ['>'], .string⟩ ∨ construct = ⟨['('], [')'], .comment⟩ := by
    obtain ⟨part, isPart, isConstruct⟩ := List.mem_filterMap.mp member
    rcases List.mem_append.mp isPart with early | last
    · cases List.eq_of_mem_replicate early
      exact .inl (Option.some.inj isConstruct).symm
    · cases List.mem_singleton.mp last
      exact .inr (Option.some.inj isConstruct).symm
  have readable (part : GrammarPart) (member : part ∈ crowdedParts) : IsReadable part := by
    rcases List.mem_append.mp member with early | last
    · cases List.eq_of_mem_replicate early
      exact trivial
    · cases List.mem_singleton.mp last
      exact trivial
  have withinLines : WithinLines (constructsOf crowdedParts) := by
    constructor <;> intro construct member <;>
      rcases inTable construct member with rfl | rfl <;> decide
  have notesWithinLines : WithinLines (constructsOf [.construct "(" ")" .comment]) := by
    constructor <;> intro construct member <;>
      cases List.mem_singleton.mp member <;> decide
  have notesReadable (part : GrammarPart)
      (member : part ∈ [GrammarPart.construct "(" ")" .comment]) : IsReadable part := by
    cases List.mem_singleton.mp member
    exact trivial
  refine ⟨⟨withinLines, ?_⟩, _, rfl, ?_⟩
  · apply (scannedAsWhole_unless_refused "crowded" "#" readable withinLines).2.1
    rw [length_constructsOf_crowdedParts]
    decide
  · exact
      (scannedAsWhole_unless_refused "notes" "#" notesReadable notesWithinLines).2.2 _ rfl _

end ChordEditor.Highlight
