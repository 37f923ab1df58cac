import ChordEditor.Highlight.Line
import ChordEditor.Proofs.Text.Occurrences
import Mathlib.Data.List.Find

namespace ChordEditor.Highlight

/-!
# Holders of places

The regions of the constructs of a text, as one scan of the whole text sees them.  Each
place of the text, and its end, is held by the construct whose region it lies in, or by
none.

Outside of regions a construct opens at the first place where the text goes on with its
opening delimiter, and a region goes on until behind the first closing delimiter after
that, or else through the end of the text.

A scan of a text of several lines is a scan of the first line, and then one of the lines
behind it that knows nothing of the first but what holds its end
(`holders_append_newline`).
-/

/-- A construct of a table, by its index. -/
abbrev Holder (constructs : List Construct) :=
  Fin constructs.length

/-- The construct that holds. -/
def Holder.construct {constructs : List Construct} (holder : Holder constructs) : Construct :=
  constructs[holder]

/-- The number of the construct that holds, counted from one. -/
def Holder.number {constructs : List Construct} (holder : Holder constructs) : Nat :=
  holder.val + 1

/-- The first construct of the table that a text goes on with. -/
def opening? (constructs : List Construct) (text : List Char) : Option (Holder constructs) :=
  (List.finRange constructs.length).find? fun holder : Holder constructs =>
    holder.construct.opening.isPrefixOf text

/-- What holds the places of a text that begins outside of regions, and its end. -/
def holdersOutside
    (constructs : List Construct) : List Char → List (Option (Holder constructs))
  | [] => [none]
  | c :: rest =>
      match opening? constructs (c :: rest) with
      | none => none :: holdersOutside constructs rest
      | some holder =>
          let width := holder.construct.opening.length
          match Text.indexOf? holder.construct.closing ((c :: rest).drop width) with
          | none => List.replicate (rest.length + 2) (some holder)
          | some offset =>
              let width := width + offset + holder.construct.closing.length
              -- The first character of the region is gone from `rest` already.
              List.replicate width (some holder) ++
                holdersOutside constructs (rest.drop (width - 1))
termination_by text => text.length
decreasing_by
  · exact Nat.lt_succ_self _
  · rw [List.length_drop, List.length_cons]
    omega

/-- What holds the places of a text that begins in the region of a construct, or in none. -/
def holders
    (constructs : List Construct) :
    Option (Holder constructs) → List Char → List (Option (Holder constructs))
  | none, text => holdersOutside constructs text
  | some holder, text =>
      match Text.indexOf? holder.construct.closing text with
      | none => List.replicate (text.length + 1) (some holder)
      | some offset =>
          let stop := offset + holder.construct.closing.length
          List.replicate stop (some holder) ++ holdersOutside constructs (text.drop stop)

/-- What holds the end of a text. -/
def holderAtEnd
    (constructs : List Construct)
    (incoming : Option (Holder constructs))
    (text : List Char) : Option (Holder constructs) :=
  (holders constructs incoming text).getLast?.join

/-- Delimiters that lie within lines. -/
structure WithinLines (constructs : List Construct) : Prop where
  opening_ne_nil : ∀ construct ∈ constructs, construct.opening ≠ []
  closing_ne_nil : ∀ construct ∈ constructs, construct.closing ≠ []
  newline_not_mem_opening : ∀ construct ∈ constructs, '\n' ∉ construct.opening
  newline_not_mem_closing : ∀ construct ∈ constructs, '\n' ∉ construct.closing

variable {constructs : List Construct} {holder : Holder constructs} {text : List Char}

theorem Holder.construct_mem (holder : Holder constructs) :
    holder.construct ∈ constructs :=
  List.getElem_mem holder.isLt

/-- A holder is found again by its number. -/
theorem Holder.construct?_number
    {grammar : Grammar}
    (holder : Holder grammar.constructs) :
    grammar.construct? holder.number = some holder.construct := by
  rw [Grammar.construct?, Holder.number, if_neg (Nat.succ_ne_zero _), Nat.add_sub_cancel]
  exact List.getElem?_eq_getElem holder.isLt

theorem prefix_of_opening?
    (opens : opening? constructs text = some holder) :
    holder.construct.opening <+: text :=
  List.isPrefixOf_iff_prefix.mp (List.find?_eq_some_iff_append.mp opens).1

theorem exists_opening?
    {construct : Construct}
    (inTable : construct ∈ constructs)
    (begins : construct.opening <+: text) :
    ∃ holder, opening? constructs text = some holder := by
  obtain ⟨index, inRange, rfl⟩ := List.mem_iff_getElem.mp inTable
  apply Option.isSome_iff_exists.mp
  exact List.find?_isSome.mpr
    ⟨⟨index, inRange⟩, List.mem_finRange _, List.isPrefixOf_iff_prefix.mpr begins⟩

/-- What opens somewhere opens where there is nothing but its opening delimiter. -/
theorem opening?_opening
    (opens : opening? constructs text = some holder) :
    opening? constructs holder.construct.opening = some holder := by
  obtain ⟨begins, earlier, later, shape, noneEarlier⟩ :=
    List.find?_eq_some_iff_append.mp opens
  refine List.find?_eq_some_iff_append.mpr
    ⟨by simp, earlier, later, shape, ?_⟩
  intro other member
  have notHere := noneEarlier other member
  simp only [Bool.not_eq_true', Bool.eq_false_iff, ne_eq,
    List.isPrefixOf_iff_prefix] at notHere ⊢
  intro shorter
  exact notHere (shorter.trans (prefix_of_opening? opens))

theorem opening?_nil
    (withinLines : WithinLines constructs) :
    opening? constructs [] = none := by
  apply List.find?_eq_none.mpr
  intro holder member begins
  exact withinLines.opening_ne_nil _ holder.construct_mem
    (List.prefix_nil.mp (List.isPrefixOf_iff_prefix.mp begins))

theorem opening?_append_newline
    (withinLines : WithinLines constructs)
    (line rest : List Char) :
    opening? constructs (line ++ '\n' :: rest) = opening? constructs line := by
  apply List.find?_congr
  intro holder member
  exact Text.isPrefixOf_append_newline
    (withinLines.newline_not_mem_opening _ holder.construct_mem) line rest

/-- Nothing holds a place where nothing opens. -/
theorem holders_of_not_opening
    {c : Char}
    (opensNothing : opening? constructs (c :: text) = none) :
    holders constructs none (c :: text) = [none] ++ holders constructs none text := by
  rw [holders, holdersOutside, opensNothing]
  rfl

theorem holders_of_closing
    {offset : Nat}
    (closes : Text.indexOf? holder.construct.closing text = some offset) :
    holders constructs (some holder) text =
      List.replicate (offset + holder.construct.closing.length) (some holder) ++
        holders constructs none
          (text.drop (offset + holder.construct.closing.length)) := by
  simp only [holders, closes]

theorem holders_of_not_closing
    (closesNowhere : Text.indexOf? holder.construct.closing text = none) :
    holders constructs (some holder) text =
      List.replicate (text.length + 1) (some holder) := by
  simp only [holders, closesNowhere]

/-- A construct holds its opening delimiter, and what it holds from inside of it. -/
theorem holders_of_opening
    (withinLines : WithinLines constructs)
    (opens : opening? constructs text = some holder) :
    holders constructs none text =
      List.replicate holder.construct.opening.length (some holder) ++
        holders constructs (some holder) (text.drop holder.construct.opening.length) := by
  have fits := (prefix_of_opening? opens).length_le
  cases text with
  | nil =>
      rw [opening?_nil withinLines] at opens
      cases opens
  | cons c rest =>
      have notEmpty : 0 < holder.construct.opening.length :=
        List.length_pos_iff.mpr
          (withinLines.opening_ne_nil _ holder.construct_mem)
      rw [holders, holdersOutside, opens, holders]
      dsimp only
      cases Text.indexOf? holder.construct.closing
          ((c :: rest).drop holder.construct.opening.length) with
      | none =>
          dsimp only
          rw [List.replicate_append_replicate, List.length_drop]
          congr 1
          rw [List.length_cons] at fits ⊢
          omega
      | some offset =>
          dsimp only
          rw [← List.append_assoc, List.replicate_append_replicate, List.drop_drop,
            ← Nat.add_assoc]
          congr 2
          obtain ⟨before, isWidth⟩ :
              ∃ before,
                holder.construct.opening.length + offset + holder.construct.closing.length =
                  before + 1 :=
            ⟨_, (Nat.sub_add_cancel (by omega)).symm⟩
          rw [isWidth, Nat.add_sub_cancel, List.drop_succ_cons]

/--
What holds of a scan of a text from inside a construct of the table, or from outside of
all, follows along the scan: from place to place outside, into a region behind its
opening delimiter, and out of it behind its closing delimiter.
-/
theorem holders_induction
    (withinLines : WithinLines constructs)
    {motive : Option (Holder constructs) → List Char → Prop}
    (atEnd : motive none [])
    (passes :
      ∀ c rest,
        opening? constructs (c :: rest) = none →
          motive none rest →
            motive none (c :: rest))
    (opens :
      ∀ holder text,
        opening? constructs text = some holder →
          motive (some holder) (text.drop holder.construct.opening.length) →
            motive none text)
    (stays :
      ∀ holder text,
        Text.indexOf? holder.construct.closing text = none →
          motive (some holder) text)
    (closes :
      ∀ holder text offset,
        Text.indexOf? holder.construct.closing text = some offset →
          motive none (text.drop (offset + holder.construct.closing.length)) →
            motive (some holder) text)
    (incoming : Option (Holder constructs))
    (text : List Char) :
    motive incoming text := by
  -- No delimiter is empty, so that each step leaves a shorter text.
  induction size : text.length using Nat.strongRecOn generalizing incoming text with
  | _ size inductionHypothesis =>
      subst size
      cases incoming with
      | none =>
          cases found : opening? constructs text with
          | some holder =>
              have fits := (prefix_of_opening? found).length_le
              have notEmpty :=
                List.length_pos_iff.mpr (withinLines.opening_ne_nil _ holder.construct_mem)
              refine opens holder text found (inductionHypothesis _ ?_ _ _ rfl)
              rw [List.length_drop]
              omega
          | none =>
              cases text with
              | nil =>
                  exact atEnd
              | cons c rest =>
                  exact passes c rest found
                    (inductionHypothesis _ (Nat.lt_succ_self _) none rest rfl)
      | some holder =>
          cases found : Text.indexOf? holder.construct.closing text with
          | none =>
              exact stays holder text found
          | some offset =>
              have fits := Text.indexOf?_bound found
              have notEmpty :=
                List.length_pos_iff.mpr (withinLines.closing_ne_nil _ holder.construct_mem)
              refine closes holder text offset found (inductionHypothesis _ ?_ _ _ rfl)
              rw [List.length_drop]
              omega

/-- Every place and the end are held, or not. -/
theorem length_holders
    (withinLines : WithinLines constructs)
    (incoming : Option (Holder constructs))
    (text : List Char) :
    (holders constructs incoming text).length = text.length + 1 := by
  induction incoming, text using holders_induction withinLines with
  | atEnd =>
      rw [holders, holdersOutside, List.length_singleton, List.length_nil]
  | passes c rest opensNothing inductionHypothesis =>
      rw [holders_of_not_opening opensNothing, List.length_append, inductionHypothesis,
        List.length_singleton, List.length_cons, Nat.add_comm]
  | opens holder text opens inductionHypothesis =>
      have fits := (prefix_of_opening? opens).length_le
      rw [holders_of_opening withinLines opens, List.length_append, inductionHypothesis,
        List.length_replicate, List.length_drop]
      omega
  | stays holder text closesNowhere =>
      rw [holders_of_not_closing closesNowhere, List.length_replicate]
  | closes holder text offset closes inductionHypothesis =>
      have fits := Text.indexOf?_bound closes
      rw [holders_of_closing closes, List.length_append, inductionHypothesis,
        List.length_replicate, List.length_drop]
      omega

theorem holders_ne_nil
    (withinLines : WithinLines constructs)
    (incoming : Option (Holder constructs))
    (text : List Char) :
    holders constructs incoming text ≠ [] := by
  apply List.ne_nil_of_length_pos
  rw [length_holders withinLines]
  exact Nat.succ_pos _

/-- What holds the end is what holds it for a scan that goes on from some place. -/
theorem holderAtEnd_of_append
    (withinLines : WithinLines constructs)
    {incoming later : Option (Holder constructs)}
    {text rest : List Char}
    {front : List (Option (Holder constructs))}
    (shape : holders constructs incoming text = front ++ holders constructs later rest) :
    holderAtEnd constructs incoming text = holderAtEnd constructs later rest := by
  rw [holderAtEnd, shape, List.getLast?_append, holderAtEnd,
    List.getLast?_eq_some_getLast (holders_ne_nil withinLines later rest), Option.some_or]

theorem getElem?_holders_length
    (withinLines : WithinLines constructs)
    (incoming : Option (Holder constructs))
    (text : List Char) :
    ((holders constructs incoming text)[text.length]?).join =
      holderAtEnd constructs incoming text := by
  rw [holderAtEnd, List.getLast?_eq_getElem?, length_holders withinLines, Nat.add_sub_cancel]

theorem holderAtEnd_of_not_closing
    (closesNowhere : Text.indexOf? holder.construct.closing text = none) :
    holderAtEnd constructs (some holder) text = some holder := by
  rw [holderAtEnd, holders_of_not_closing closesNowhere, List.getLast?_replicate,
    if_neg (Nat.succ_ne_zero _), Option.join_some]

/-- A construct that does not close on a line holds it, and goes on behind it. -/
theorem holders_over_newline
    (withinLines : WithinLines constructs)
    {line : List Char}
    (closesNowhere : Text.indexOf? holder.construct.closing line = none)
    (rest : List Char) :
    holders constructs (some holder) (line ++ '\n' :: rest) =
      List.replicate (line.length + 1) (some holder) ++
        holders constructs (some holder) rest := by
  have closing :=
    Text.indexOf?_append_newline
      (withinLines.closing_ne_nil _ holder.construct_mem)
      (withinLines.newline_not_mem_closing _ holder.construct_mem) line rest
  rw [closesNowhere, Option.none_or] at closing
  cases behind : Text.indexOf? holder.construct.closing rest with
  | none =>
      rw [behind] at closing
      rw [holders_of_not_closing closing, holders_of_not_closing behind,
        List.replicate_append_replicate, List.length_append, List.length_cons,
        Nat.add_right_comm, Nat.add_assoc]
  | some offset =>
      rw [behind, Option.map_some] at closing
      have width :
          offset + (line.length + 1) + holder.construct.closing.length =
            line.length + 1 + (offset + holder.construct.closing.length) := by
        omega
      rw [holders_of_closing closing, holders_of_closing behind, ← List.append_assoc,
        List.replicate_append_replicate, width, List.append_cons, ← List.drop_drop,
        List.drop_left' (by simp)]

/-- A scan of several lines is that of the first line, and then one of those behind it. -/
theorem holders_append_newline
    (withinLines : WithinLines constructs)
    (incoming : Option (Holder constructs))
    (line rest : List Char) :
    holders constructs incoming (line ++ '\n' :: rest) =
      holders constructs incoming line ++
        holders constructs (holderAtEnd constructs incoming line) rest := by
  -- Each step of the scan of the line is one of the scan of the lines: no delimiter
  -- reaches over the newline.
  induction incoming, line using holders_induction withinLines with
  | atEnd =>
      have opensNothing : opening? constructs ('\n' :: rest) = none := by
        rw [← List.nil_append ('\n' :: rest), opening?_append_newline withinLines,
          opening?_nil withinLines]
      rw [List.nil_append, holders_of_not_opening opensNothing, holderAtEnd]
      simp [holders, holdersOutside]
  | passes c line opensNothing inductionHypothesis =>
      have inLine := holders_of_not_opening opensNothing
      rw [← opening?_append_newline withinLines _ rest, List.cons_append] at opensNothing
      rw [holderAtEnd_of_append withinLines inLine, inLine, List.cons_append,
        holders_of_not_opening opensNothing, inductionHypothesis, List.append_assoc]
  | opens holder line opens inductionHypothesis =>
      have fits := (prefix_of_opening? opens).length_le
      have inLine := holders_of_opening withinLines opens
      rw [← opening?_append_newline withinLines _ rest] at opens
      rw [holderAtEnd_of_append withinLines inLine, inLine,
        holders_of_opening withinLines opens, List.drop_append_of_le_length fits,
        inductionHypothesis, List.append_assoc]
  | stays holder line closesNowhere =>
      rw [holderAtEnd_of_not_closing closesNowhere, holders_of_not_closing closesNowhere]
      exact holders_over_newline withinLines closesNowhere rest
  | closes holder line offset closes inductionHypothesis =>
      have fits := Text.indexOf?_bound closes
      have inLine := holders_of_closing closes
      have closesThere :
          Text.indexOf? holder.construct.closing (line ++ '\n' :: rest) = some offset := by
        rw [Text.indexOf?_append_newline
          (withinLines.closing_ne_nil _ holder.construct_mem)
          (withinLines.newline_not_mem_closing _ holder.construct_mem), closes, Option.some_or]
      rw [holderAtEnd_of_append withinLines inLine, inLine, holders_of_closing closesThere,
        List.drop_append_of_le_length fits, inductionHypothesis, List.append_assoc]

/-- What holds the start of the line behind some lines. -/
def holderBehind
    (constructs : List Construct)
    (incoming : Option (Holder constructs))
    (texts : List (List Char)) : Option (Holder constructs) :=
  texts.foldl (holderAtEnd constructs) incoming

/-- The place at which the line behind some lines begins. -/
def placeBehind (texts : List (List Char)) : Nat :=
  (texts.flatMap fun text => text ++ ['\n']).length

/-- A line is scanned among others as it is alone, with what holds the end of those before. -/
theorem holders_of_lines
    (withinLines : WithinLines constructs)
    (incoming : Option (Holder constructs))
    (before after : List (List Char))
    (text : List Char) :
    ∃ front behind,
      front.length = placeBehind before ∧
        holders constructs incoming
            (List.intercalate ['\n'] (before ++ text :: after)) =
          front ++ (holders constructs (holderBehind constructs incoming before) text ++
            behind) := by
  induction before generalizing incoming with
  | nil =>
      refine ⟨[], ?_⟩
      cases after with
      | nil =>
          exact ⟨[], rfl, by simp [holderBehind]⟩
      | cons next later =>
          refine
            ⟨holders constructs (holderAtEnd constructs incoming text)
              (List.intercalate ['\n'] (next :: later)), rfl, ?_⟩
          rw [List.nil_append, List.nil_append, List.intercalate_cons_cons,
            List.append_assoc, List.singleton_append, holders_append_newline withinLines]
          rfl
  | cons line before inductionHypothesis =>
      obtain ⟨front, behind, reached, shape⟩ :=
        inductionHypothesis (holderAtEnd constructs incoming line)
      refine ⟨holders constructs incoming line ++ front, behind, ?_, ?_⟩
      · rw [List.length_append, length_holders withinLines, reached, placeBehind, placeBehind,
          List.flatMap_cons, List.length_append, List.length_append, List.length_singleton]
      · rw [List.cons_append, List.intercalate_cons_of_ne_nil (by simp), List.append_assoc,
          List.singleton_append, holders_append_newline withinLines, shape, List.append_assoc]
        rfl

end ChordEditor.Highlight
