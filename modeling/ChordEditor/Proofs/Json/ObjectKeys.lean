import ChordEditor.Json.Reader
import Mathlib.Tactic.Tauto

namespace ChordEditor

/-!
# Keys of the objects that are read

Wherever an object stands in a value that has been read, its members are in the order of
their keys, each key once (`JsonValue.keysInOrder_of_read?`).  The invariant is one about
the reader's stack: what is open has its keys in order, and a member comes in by
`insertMember` only.
-/

namespace JsonValue

/-- Whether a value is no array and no object. -/
def isLeaf : JsonValue → Bool
  | .array _ | .object _ => false
  | _ => true

/-- Whether each object in a value has its keys in order, each key once. -/
inductive KeysInOrder : JsonValue → Prop where
  | leaf {value : JsonValue} (isLeaf : value.isLeaf) : KeysInOrder value
  | array {items : List JsonValue} (inside : ∀ item ∈ items, KeysInOrder item) :
      KeysInOrder (.array items)
  | object {members : List (String × JsonValue)}
      (ordered : members.Pairwise fun first second => first.1 < second.1)
      (inside : ∀ member ∈ members, KeysInOrder member.2) :
      KeysInOrder (.object members)

theorem keysInOrder_array_iff {items : List JsonValue} :
    (JsonValue.array items).KeysInOrder ↔ ∀ item ∈ items, item.KeysInOrder := by
  refine ⟨fun inOrder => ?_, .array⟩
  cases inOrder with
  | leaf isLeaf =>
      cases isLeaf
  | array inside =>
      exact inside

section Members

variable
  {key : String}
  {value : JsonValue}
  {members : List (String × JsonValue)}

theorem eq_or_mem_of_mem_insertMember
    {member : String × JsonValue}
    (isMember : member ∈ insertMember key value members) :
    member = (key, value) ∨ member ∈ members := by
  fun_induction insertMember key value members with
  | case1 =>
      simpa using isMember
  | case2 | case3 =>
      simp only [List.mem_cons] at isMember ⊢
      tauto
  | case4 other otherValue rest notBefore ne inductionHypothesis =>
      simp only [List.mem_cons] at isMember ⊢
      tauto

theorem pairwise_insertMember
    (ordered : members.Pairwise fun first second => first.1 < second.1) :
    (insertMember key value members).Pairwise fun first second => first.1 < second.1 := by
  fun_induction insertMember key value members with
  | case1 =>
      exact List.pairwise_singleton _ _
  | case2 other otherValue rest before =>
      refine List.pairwise_cons.mpr ⟨fun member isMember => ?_, ordered⟩
      obtain rfl | behind := List.mem_cons.mp isMember
      · exact before
      · exact String.lt_trans before (List.rel_of_pairwise_cons ordered behind)
  | case3 otherValue rest =>
      exact List.pairwise_cons.mpr (List.pairwise_cons.mp ordered)
  | case4 other otherValue rest notBefore ne inductionHypothesis =>
      have otherBefore : other < key :=
        String.not_le.mp fun before =>
          ne (String.le_antisymm before (String.not_lt.mp notBefore))
      refine List.pairwise_cons.mpr
        ⟨fun member isMember => ?_, inductionHypothesis ordered.of_cons⟩
      obtain rfl | behind := eq_or_mem_of_mem_insertMember isMember
      · exact otherBefore
      · exact List.rel_of_pairwise_cons ordered behind

/-- A member put among others leaves an object's keys in order. -/
theorem KeysInOrder.insertMember
    (inOrder : (JsonValue.object members).KeysInOrder)
    (valueInOrder : value.KeysInOrder) :
    (JsonValue.object (JsonValue.insertMember key value members)).KeysInOrder := by
  cases inOrder with
  | leaf isLeaf =>
      cases isLeaf
  | object ordered inside =>
      refine .object (pairwise_insertMember ordered) fun member isMember => ?_
      obtain rfl | behind := eq_or_mem_of_mem_insertMember isMember
      · exact valueInOrder
      · exact inside member behind

/-- No key of an object with its keys in order comes up twice. -/
theorem KeysInOrder.nodup
    (inOrder : (JsonValue.object members).KeysInOrder) :
    (members.map Prod.fst).Nodup := by
  cases inOrder with
  | leaf isLeaf =>
      cases isLeaf
  | object ordered inside =>
      refine List.pairwise_map.mpr (ordered.imp fun before same => ?_)
      exact String.lt_irrefl _ (same ▸ before)

end Members

end JsonValue

namespace JsonNumberText

variable {parts : JsonNumberText} {value : JsonValue}

theorem isLeaf_of_floating? (isValue : parts.floating? = some value) : value.isLeaf := by
  simp only [floating?, Option.bind_eq_bind, Option.bind_eq_some_iff] at isValue
  obtain ⟨exponent, -, isValue⟩ := isValue
  split at isValue
  · split at isValue <;> cases isValue
    rfl
  · obtain ⟨number, -, isNumber⟩ := Option.bind_eq_some_iff.mp isValue
    cases isNumber
    rfl

theorem isLeaf_of_value? (isValue : parts.value? = some value) : value.isLeaf := by
  grind [value?, isLeaf_of_floating?, JsonValue.isLeaf]

end JsonNumberText

namespace JsonToken

/-- Whether a token's value, if it has one, is no array and no object. -/
def holdsLeaf : JsonToken → Bool
  | .leaf value => value.isLeaf
  | _ => true

theorem isLeaf_of_word?
    {text behind : List Char}
    {value : JsonValue}
    (isWord : word? text = some (value, behind)) :
    value.isLeaf := by
  obtain ⟨word, found, read⟩ := Option.map_eq_some_iff.mp isWord
  cases read
  have isKnown := List.mem_of_find?_eq_some found
  simp only [words, List.mem_cons, List.not_mem_nil, or_false] at isKnown
  obtain rfl | rfl | rfl := isKnown <;> rfl

theorem holdsLeaf_of_next?
    {text behind : List Char}
    {token : JsonToken}
    (isNext : next? text = some (token, behind)) :
    token.holdsLeaf := by
  unfold next? at isNext
  split at isNext
  case h_1 =>
    cases isNext
  case h_8 rest =>
    obtain ⟨quoted, -, read⟩ := Option.map_eq_some_iff.mp isNext
    cases read
    rfl
  case h_9 =>
    split at isNext
    · obtain ⟨word, isWord, read⟩ := Option.map_eq_some_iff.mp isNext
      cases read
      exact isLeaf_of_word? isWord
    · simp only [Option.bind_eq_bind, Option.bind_eq_some_iff] at isNext
      obtain ⟨parts, -, value, isValue, read⟩ := isNext
      cases read
      exact JsonNumberText.isLeaf_of_value? isValue
  all_goals
    cases isNext
    rfl

theorem holdsLeaf_of_tokensWithin?
    {fuel : Nat}
    {text : List Char}
    {tokens : List JsonToken}
    (cut : tokensWithin? fuel text = some tokens) :
    ∀ token ∈ tokens, token.holdsLeaf := by
  induction fuel generalizing text tokens with
  | zero =>
      cases cut
  | succ fuel inductionHypothesis =>
      unfold tokensWithin? at cut
      split at cut
      · cases cut
        simp
      · simp only [Option.bind_eq_bind, Option.bind_eq_some_iff] at cut
        obtain ⟨⟨token, behind⟩, isNext, rest, restCut, read⟩ := cut
        cases read
        exact List.forall_mem_cons.mpr
          ⟨holdsLeaf_of_next? isNext, inductionHypothesis restCut⟩

end JsonToken

/-- The value that is open, as far as it has been read. -/
def JsonFrame.soFar : JsonFrame → JsonValue
  | .array items => .array items
  | .object members _ => .object members

namespace JsonReader

/-- The invariant of a reader: what is open and what has been read have their keys in order. -/
structure KeepsOrder (reader : JsonReader) : Prop where
  frames : ∀ frame ∈ reader.frames, frame.soFar.KeysInOrder
  result : ∀ value ∈ reader.result, value.KeysInOrder

variable {reader after : JsonReader}

theorem KeepsOrder.initial : ({} : JsonReader).KeepsOrder where
  frames := by simp
  result := by simp

/-- What is open around the innermost array or object is in order, and so is that itself. -/
theorem KeepsOrder.innermost
    {frame : JsonFrame}
    {outer : List JsonFrame}
    (keeps : reader.KeepsOrder)
    (isOpen : reader.frames = frame :: outer) :
    frame.soFar.KeysInOrder ∧ { reader with frames := outer }.KeepsOrder := by
  have inOrder := keeps.frames
  rw [isOpen, List.forall_mem_cons] at inOrder
  exact ⟨inOrder.1, inOrder.2, keeps.result⟩

/-- An open array or object may take the place of what was open within the same ones. -/
theorem KeepsOrder.within
    {frame : JsonFrame}
    {outer : List JsonFrame}
    {expected : JsonExpected}
    (outerKeeps : { reader with frames := outer }.KeepsOrder)
    (inOrder : frame.soFar.KeysInOrder) :
    { reader with expected, frames := frame :: outer }.KeepsOrder :=
  ⟨List.forall_mem_cons.mpr ⟨inOrder, outerKeeps.frames⟩, outerKeeps.result⟩

theorem KeepsOrder.place
    {value : JsonValue}
    (keeps : reader.KeepsOrder)
    (inOrder : value.KeysInOrder) :
    (reader.place value).KeepsOrder := by
  unfold JsonReader.place
  split
  case h_1 isOutermost =>
    exact ⟨keeps.frames, by simpa using inOrder⟩
  case h_2 items outer isOpen =>
    obtain ⟨itemsInOrder, outerKeeps⟩ := keeps.innermost isOpen
    exact outerKeeps.within (JsonValue.keysInOrder_array_iff.mpr
      (List.forall_mem_cons.mpr ⟨inOrder, JsonValue.keysInOrder_array_iff.mp itemsInOrder⟩))
  case h_3 members key outer isOpen =>
    obtain ⟨membersInOrder, outerKeeps⟩ := keeps.innermost isOpen
    exact outerKeeps.within (membersInOrder.insertMember inOrder)

theorem KeepsOrder.enter
    {frame : JsonFrame}
    {expected : JsonExpected}
    (keeps : reader.KeepsOrder)
    (entered : reader.enter? frame expected = some after)
    (inOrder : frame.soFar.KeysInOrder) :
    after.KeepsOrder := by
  obtain ⟨-, isAfter⟩ := Option.ite_none_right_eq_some.mp entered
  cases isAfter
  exact keeps.within inOrder

theorem KeepsOrder.closeArray
    (keeps : reader.KeepsOrder)
    (closed : reader.closeArray? = some after) :
    after.KeepsOrder := by
  unfold closeArray? at closed
  split at closed
  case h_1 items outer isOpen =>
    cases closed
    obtain ⟨itemsInOrder, outerKeeps⟩ := keeps.innermost isOpen
    refine outerKeeps.place (JsonValue.keysInOrder_array_iff.mpr ?_)
    simpa using JsonValue.keysInOrder_array_iff.mp itemsInOrder
  case h_2 =>
    cases closed

theorem KeepsOrder.closeObject
    (keeps : reader.KeepsOrder)
    (closed : reader.closeObject? = some after) :
    after.KeepsOrder := by
  unfold closeObject? at closed
  split at closed
  case h_1 members key outer isOpen =>
    cases closed
    obtain ⟨membersInOrder, outerKeeps⟩ := keeps.innermost isOpen
    exact outerKeeps.place membersInOrder
  case h_2 =>
    cases closed

theorem KeepsOrder.comma
    (keeps : reader.KeepsOrder)
    (behind : reader.comma? = some after) :
    after.KeepsOrder := by
  unfold comma? at behind
  split at behind <;> cases behind <;> exact ⟨keeps.frames, keeps.result⟩

theorem KeepsOrder.key
    {value : JsonValue}
    (keeps : reader.KeepsOrder)
    (taken : reader.key? value = some after) :
    after.KeepsOrder := by
  unfold key? at taken
  split at taken
  case h_1 members oldKey outer key isOpen =>
    cases taken
    obtain ⟨membersInOrder, outerKeeps⟩ := keeps.innermost isOpen
    exact outerKeeps.within membersInOrder
  case h_2 =>
    cases taken

/-- One more token leaves everything in order. -/
theorem KeepsOrder.take
    {token : JsonToken}
    (keeps : reader.KeepsOrder)
    (holdsLeaf : token.holdsLeaf)
    (taken : reader.take? token = some after) :
    after.KeepsOrder := by
  unfold take? at taken
  split at taken
  case h_1 | h_2 =>
    cases taken
    exact keeps.place (.leaf holdsLeaf)
  case h_3 | h_4 =>
    exact keeps.enter taken (.array (by simp))
  case h_5 | h_6 =>
    exact keeps.enter taken (.object .nil (by simp))
  case h_7 | h_8 =>
    exact keeps.closeArray taken
  case h_9 | h_10 =>
    exact keeps.closeObject taken
  case h_11 | h_12 =>
    exact keeps.key taken
  case h_13 =>
    cases taken
    exact ⟨keeps.frames, keeps.result⟩
  case h_14 =>
    exact keeps.comma taken
  case h_15 =>
    cases taken

/-- All tokens of a text together leave everything in order. -/
theorem KeepsOrder.takeAll
    {tokens : List JsonToken}
    (keeps : reader.KeepsOrder)
    (holdLeaves : ∀ token ∈ tokens, token.holdsLeaf)
    (taken : tokens.foldlM take? reader = some after) :
    after.KeepsOrder := by
  induction tokens generalizing reader with
  | nil =>
      cases taken
      exact keeps
  | cons token tokens inductionHypothesis =>
      obtain ⟨holdsLeaf, holdLeaves⟩ := List.forall_mem_cons.mp holdLeaves
      obtain ⟨next, takenFirst, takenRest⟩ := Option.bind_eq_some_iff.mp taken
      exact inductionHypothesis (keeps.take holdsLeaf takenFirst) holdLeaves takenRest

end JsonReader

/-- Every object in a value that is read has its keys in order, each key once. -/
theorem JsonValue.keysInOrder_of_read?
    {text : List Char}
    {value : JsonValue}
    (isRead : read? text = some value) :
    value.KeysInOrder := by
  simp only [read?, Option.bind_eq_bind, Option.bind_eq_some_iff] at isRead
  obtain ⟨tokens, cut, reader, taken, isResult⟩ := isRead
  have keeps := JsonReader.KeepsOrder.initial.takeAll
    (JsonToken.holdsLeaf_of_tokensWithin? cut) taken
  exact keeps.result value (Option.ite_none_right_eq_some.mp isResult).2

end ChordEditor
