import ChordEditor.Proofs.Text.Occurrences
import ChordEditor.Search

namespace ChordEditor.SearchTerm

/-!
# The matches of a term

Which spans of a text match a term is said here without any search: they are apart, the
term occurs at each of them, and no occurrence begins outside of them all.  Only one list
of spans is like that (`MatchList.unique`), and it is the one that the search gives.
-/

/-- A term occurs at a place of a text; a whole word lies between word boundaries. -/
def OccursAt
    (term : SearchTerm)
    (text : List Char)
    (place : Nat) : Prop :=
  ∃ before after,
    text = before ++ term.text ++ after ∧
      before.length = place ∧
        (term.wholeWord = true →
          Text.isWordBoundary before.getLast? term.text.head? = true ∧
            Text.isWordBoundary term.text.getLast? after.head? = true)

/-- The matches of a term from a place on: the leftmost ones that do not overlap. -/
structure MatchList
    (term : SearchTerm)
    (text : List Char)
    (place : Nat)
    (spans : List Span) : Prop where
  occurs : ∀ span ∈ spans, term.OccursAt text span.start
  wide : ∀ span ∈ spans, span.stop = span.start + term.text.length
  someText : ∀ span ∈ spans, span.start < span.stop
  behind : ∀ span ∈ spans, place ≤ span.start
  ascending : spans.Pairwise fun earlier later => earlier.stop ≤ later.start
  leftmost :
    ∀ start, place ≤ start → term.OccursAt text start →
      ∃ span ∈ spans, span.start ≤ start ∧ start < span.stop

namespace MatchList

variable
  {term : SearchTerm}
  {text : List Char}
  {place : Nat}

/-- The first match begins no later than any other list has one. -/
theorem first_le
    {first : Span}
    {rest others : List Span}
    (listed : term.MatchList text place (first :: rest))
    (otherListed : term.MatchList text place others)
    {other : Span}
    (isOther : other ∈ others) :
    first.start ≤ other.start := by
  obtain ⟨span, isMatch, covers, _⟩ :=
    listed.leftmost other.start (otherListed.behind other isOther)
      (otherListed.occurs other isOther)
  rcases List.mem_cons.mp isMatch with rfl | isLater
  · exact covers
  · have apart := (List.pairwise_cons.mp listed.ascending).1 span isLater
    have someText := listed.someText first List.mem_cons_self
    omega

/-- Behind the first match the others are the matches from its end on. -/
theorem tail
    {first : Span}
    {rest : List Span}
    (listed : term.MatchList text place (first :: rest)) :
    term.MatchList text first.stop rest := by
  have further {span : Span} (isLater : span ∈ rest) : span ∈ first :: rest :=
    List.mem_cons_of_mem first isLater
  obtain ⟨apart, ascending⟩ := List.pairwise_cons.mp listed.ascending
  exact
    { occurs := fun span isLater => listed.occurs span (further isLater)
      wide := fun span isLater => listed.wide span (further isLater)
      someText := fun span isLater => listed.someText span (further isLater)
      behind := apart
      ascending := ascending
      leftmost := by
        intro start isBehind occurs
        have before := listed.behind first List.mem_cons_self
        have someText := listed.someText first List.mem_cons_self
        obtain ⟨span, isMatch, covers⟩ := listed.leftmost start (by omega) occurs
        rcases List.mem_cons.mp isMatch with rfl | isLater
        · omega
        · exact ⟨span, isLater, covers⟩ }

/-- A text has one list of matches of a term. -/
theorem unique
    {spans others : List Span}
    (listed : term.MatchList text place spans)
    (otherListed : term.MatchList text place others) :
    spans = others := by
  -- The first matches are the same; behind them the lists begin at the same place.
  induction spans generalizing place others with
  | nil =>
      cases others with
      | nil =>
          rfl
      | cons other _ =>
          obtain ⟨span, isMatch, _⟩ :=
            listed.leftmost other.start (otherListed.behind other List.mem_cons_self)
              (otherListed.occurs other List.mem_cons_self)
          contradiction
  | cons first rest inductionHypothesis =>
      cases others with
      | nil =>
          obtain ⟨span, isMatch, _⟩ :=
            otherListed.leftmost first.start (listed.behind first List.mem_cons_self)
              (listed.occurs first List.mem_cons_self)
          contradiction
      | cons other others =>
          have sameStart : first.start = other.start :=
            Nat.le_antisymm (listed.first_le otherListed List.mem_cons_self)
              (otherListed.first_le listed List.mem_cons_self)
          have sameStop : first.stop = other.stop := by
            rw [listed.wide first List.mem_cons_self,
              otherListed.wide other List.mem_cons_self, sameStart]
          obtain rfl : first = other := by
            cases first
            cases other
            simp_all
          rw [inductionHypothesis listed.tail otherListed.tail]

end MatchList

variable (term : SearchTerm)

/-- What the search for a term tests at a place, given the character before it. -/
def begins (previous : Option Char) (ahead : List Char) : Bool :=
  if term.wholeWord then
    Text.beginsWithWord term.text previous ahead
  else
    Text.beginsWith term.text previous ahead

/-- The search goes over the text once with that test. -/
theorem spansIn_eq (text : List Char) :
    term.spansIn text =
      (Text.occurrencesFrom term.begins term.text.length none text 0 0).map fun place =>
        ⟨place, place + term.text.length⟩ := by
  unfold spansIn begins
  cases term.wholeWord <;> rfl

variable {term}

/-- The test holds where the term stands, between word boundaries if it has to. -/
theorem begins_iff
    (someText : term.text ≠ [])
    {before ahead : List Char} :
    term.begins before.getLast? ahead = true ↔
      ∃ after,
        ahead = term.text ++ after ∧
          (term.wholeWord = true →
            Text.isWordBoundary before.getLast? term.text.head? = true ∧
              Text.isWordBoundary term.text.getLast? after.head? = true) := by
  have stands : term.text.isPrefixOf ahead = true ↔ ∃ after, ahead = term.text ++ after := by
    rw [List.isPrefixOf_iff_prefix]
    exact exists_congr fun _ => eq_comm
  have sameHead (after : List Char) : (term.text ++ after).head? = term.text.head? := by
    obtain ⟨c, rest, shape⟩ := List.exists_cons_of_ne_nil someText
    rw [shape]
    rfl
  have bounded
      (after : List Char) :
      (Text.isWordBoundary before.getLast? (term.text ++ after).head? &&
          Text.isWordBoundary term.text.getLast?
            ((term.text ++ after).drop term.text.length).head?) = true ↔
        Text.isWordBoundary before.getLast? term.text.head? = true ∧
          Text.isWordBoundary term.text.getLast? after.head? = true := by
    rw [List.drop_left, sameHead, Bool.and_eq_true]
  unfold begins Text.beginsWithWord Text.beginsWith
  cases term.wholeWord with
  | false =>
      simp only [Bool.false_eq_true, if_false, false_implies, and_true]
      exact stands
  | true =>
      simp only [if_true, true_implies, Bool.and_assoc]
      rw [Bool.and_eq_true, stands]
      constructor
      · rintro ⟨⟨after, rfl⟩, isWord⟩
        exact ⟨after, rfl, (bounded after).mp isWord⟩
      · rintro ⟨after, rfl, isWord⟩
        exact ⟨⟨after, rfl⟩, (bounded after).mpr isWord⟩

/-- A term occurs where the test for it holds. -/
theorem occursAt_iff
    (someText : term.text ≠ [])
    {text : List Char}
    {place : Nat} :
    term.OccursAt text place ↔
      ∃ before ahead,
        text = before ++ ahead ∧
          before.length = place ∧ term.begins before.getLast? ahead = true := by
  constructor
  · rintro ⟨before, after, rfl, isPlace, isWord⟩
    refine ⟨before, term.text ++ after, List.append_assoc .., isPlace, ?_⟩
    exact (begins_iff someText).mpr ⟨after, rfl, isWord⟩
  · rintro ⟨before, ahead, rfl, isPlace, stands⟩
    obtain ⟨after, rfl, isWord⟩ := (begins_iff someText).mp stands
    exact ⟨before, after, (List.append_assoc ..).symm, isPlace, isWord⟩

/-- The search gives the matches of a term. -/
theorem spansIn_matchList
    (someText : term.text ≠ [])
    (text : List Char) :
    term.MatchList text 0 (term.spansIn text) := by
  have someWidth : 0 < term.text.length := List.length_pos_iff.mpr someText
  have fits
      (previous : Option Char)
      (ahead : List Char)
      (stands : term.begins previous ahead = true) :
      term.text.length ≤ ahead.length := by
    have isPrefix : term.text.isPrefixOf ahead = true := by
      unfold begins Text.beginsWithWord Text.beginsWith at stands
      split at stands
      · simp only [Bool.and_eq_true] at stands
        exact stands.1.1
      · exact stands
    exact (List.isPrefixOf_iff_prefix.mp isPrefix).length_le
  rw [spansIn_eq]
  constructor
  · intro span isSpan
    obtain ⟨found, isFound, rfl⟩ := List.mem_map.mp isSpan
    obtain ⟨before, ahead, shape, isPlace, stands⟩ :=
      @Text.occurrencesFrom_holds _ _ [] text 0 found isFound
    exact (occursAt_iff someText).mpr ⟨before, ahead, shape, isPlace, stands⟩
  · intro span isSpan
    obtain ⟨found, _, rfl⟩ := List.mem_map.mp isSpan
    rfl
  · intro span isSpan
    obtain ⟨found, _, rfl⟩ := List.mem_map.mp isSpan
    exact Nat.lt_add_of_pos_right someWidth
  · exact fun span _ => Nat.zero_le span.start
  · rw [List.pairwise_map]
    exact Text.occurrencesFrom_apart fits none text 0 0
  · intro start _ occurs
    obtain ⟨between, ahead, rfl, rfl, stands⟩ := (occursAt_iff someText).mp occurs
    have someAhead : ahead ≠ [] := by
      intro nothing
      have tooShort := fits _ ahead stands
      rw [nothing] at tooShort
      exact absurd tooShort (Nat.not_le_of_lt someWidth)
    obtain ⟨found, isFound, starts, stops⟩ :=
      @Text.occurrencesFrom_covers _ _ someWidth [] between ahead 0 (Nat.zero_le _)
        someAhead stands
    rw [List.length_nil, Nat.zero_add] at starts stops
    exact ⟨⟨found, found + term.text.length⟩, List.mem_map_of_mem isFound, starts, stops⟩

/-- The matches of a term are the spans that the search gives, and no others. -/
theorem matchList_iff
    (someText : term.text ≠ [])
    (text : List Char)
    (spans : List Span) :
    term.MatchList text 0 spans ↔ spans = term.spansIn text := by
  have found := spansIn_matchList someText text
  constructor
  · intro listed
    exact listed.unique found
  · rintro rfl
    exact found

/-- Of overlapping occurrences the leftmost one is a match, and the next one behind it. -/
example : ({ text := ['a', 'a'], wholeWord := false } : SearchTerm).spansIn
    ['a', 'a', 'a', 'a', 'a'] = [⟨0, 2⟩, ⟨2, 4⟩] := by
  decide

end ChordEditor.SearchTerm
