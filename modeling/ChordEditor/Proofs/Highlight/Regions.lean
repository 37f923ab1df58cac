import ChordEditor.Proofs.Highlight.Rounds

namespace ChordEditor.Highlight

/-!
# Regions on a line

What the constructs of a table paint on a line, said by the places where their delimiters
stand: outside of regions the construct opens that stands first, and of those at one place
the first one of the table; a region goes on until behind the first closing delimiter from
the end of the opening one on, or through the end of the line.

A scan that comes to its end paints these regions and nothing else (`scanConstructs?_iff`).
A scan that does not end has no regions either, as none of them would be the last.
-/

/-- A delimiter stands at a place of a line, or at its end. -/
def StandsAt (delimiter line : List Char) (place : Nat) : Prop :=
  place ≤ line.length ∧ delimiter <+: line.drop place

/-- The first place from some place on at which a delimiter stands. -/
structure FirstFrom (delimiter line : List Char) (place found : Nat) : Prop where
  behind : place ≤ found
  stands : StandsAt delimiter line found
  noneEarlier :
    ∀ earlier, place ≤ earlier → earlier < found → ¬ StandsAt delimiter line earlier

/-- The construct that opens first from some place on; of two at one place the earlier one. -/
structure OpensFirst
    (constructs : List Construct)
    (line : List Char)
    (place start : Nat)
    (holder : Holder constructs) : Prop where
  behind : place ≤ start
  opens : StandsAt holder.construct.opening line start
  noneEarlier :
    ∀ other : Holder constructs,
      ∀ earlier,
        place ≤ earlier → earlier < start → ¬ StandsAt other.construct.opening line earlier
  noneBefore :
    ∀ other : Holder constructs,
      other < holder → ¬ StandsAt other.construct.opening line start

/--
The regions of a line from a place on, which is outside of constructs, or inside of one
whose region begins at some place before.
-/
inductive Regions
    (constructs : List Construct)
    (line : List Char) : Option (Nat × Construct) → Nat → List Paint → Prop
  | outside
      {place : Nat}
      (noneOpens :
        ∀ holder : Holder constructs,
          ∀ later, place ≤ later → ¬ StandsAt holder.construct.opening line later) :
      Regions constructs line none place []
  | opens
      {place start : Nat}
      {holder : Holder constructs}
      {regions : List Paint}
      (first : OpensFirst constructs line place start holder)
      (inside :
        Regions constructs line (some (start, holder.construct))
          (start + holder.construct.opening.length) regions) :
      Regions constructs line none place regions
  | staysOpen
      {place start : Nat}
      {construct : Construct}
      (closesNowhere : ∀ later, place ≤ later → ¬ StandsAt construct.closing line later) :
      Regions constructs line (some (start, construct)) place
        [⟨start, line.length, construct.tokenClass⟩]
  | closes
      {place start stop : Nat}
      {construct : Construct}
      {regions : List Paint}
      (first : FirstFrom construct.closing line place stop)
      (behind : Regions constructs line none (stop + construct.closing.length) regions) :
      Regions constructs line (some (start, construct)) place
        (⟨start, stop + construct.closing.length, construct.tokenClass⟩ :: regions)

section Searching

variable {delimiter line text : List Char} {place : Nat}

theorem standsAt_drop_iff (inLine : place ≤ line.length) (offset : Nat) :
    StandsAt delimiter (line.drop place) offset ↔ StandsAt delimiter line (place + offset) := by
  unfold StandsAt
  rw [List.drop_drop, List.length_drop]
  exact and_congr_left fun _ => by omega

theorem standsAt_cons_succ_iff {c : Char} {offset : Nat} :
    StandsAt delimiter (c :: text) (offset + 1) ↔ StandsAt delimiter text offset := by
  unfold StandsAt
  rw [List.drop_succ_cons, List.length_cons, Nat.add_le_add_iff_right]

/-- What is found nowhere stands nowhere. -/
theorem not_standsAt_of_indexOf?
    (nowhere : Text.indexOf? delimiter text = none)
    (place : Nat) :
    ¬ StandsAt delimiter text place := by
  rintro ⟨-, begins⟩
  exact Text.indexOf?_eq_none_iff.mp nowhere
    (begins.isInfix.trans (List.drop_suffix place text).isInfix)

/-- A delimiter is found where it stands first. -/
theorem firstFrom_of_indexOf?
    {found : Nat}
    (isFound : Text.indexOf? delimiter text = some found) :
    FirstFrom delimiter text 0 found := by
  induction text generalizing found with
  | nil =>
      simp only [Text.indexOf?, List.isEmpty_iff, Option.ite_none_right_eq_some,
        Option.some.injEq] at isFound
      obtain ⟨rfl, rfl⟩ := isFound
      refine ⟨Nat.le_refl _, ⟨Nat.le_refl _, List.nil_prefix⟩, ?_⟩
      intro earlier _ isEarlier
      exact absurd isEarlier (Nat.not_lt_zero earlier)
  | cons c rest inductionHypothesis =>
      unfold Text.indexOf? at isFound
      split at isFound
      · rename_i begins
        cases isFound
        refine ⟨Nat.le_refl _, ⟨Nat.zero_le _, List.isPrefixOf_iff_prefix.mp begins⟩, ?_⟩
        intro earlier _ isEarlier
        exact absurd isEarlier (Nat.not_lt_zero earlier)
      · rename_i beginsNot
        obtain ⟨later, isLater, rfl⟩ := Option.map_eq_some_iff.mp isFound
        have first := inductionHypothesis isLater
        refine ⟨Nat.zero_le _, standsAt_cons_succ_iff.mpr first.stands, ?_⟩
        intro earlier _ isEarlier stands
        cases earlier with
        | zero =>
            exact beginsNot (List.isPrefixOf_iff_prefix.mpr stands.2)
        | succ earlier =>
            exact first.noneEarlier earlier (Nat.zero_le _) (Nat.lt_of_succ_lt_succ isEarlier)
              (standsAt_cons_succ_iff.mp stands)

/-- There is one first place at most. -/
theorem FirstFrom.unique
    {first second : Nat}
    (isFirst : FirstFrom delimiter line place first)
    (isSecond : FirstFrom delimiter line place second) :
    first = second := by
  have notBefore := isFirst.noneEarlier second isSecond.behind
  have notBehind := isSecond.noneEarlier first isFirst.behind
  rcases Nat.lt_trichotomy first second with isLess | same | isMore
  · exact absurd isFirst.stands (notBehind isLess)
  · exact same
  · exact absurd isSecond.stands (notBefore isMore)

/-- From a place on, a delimiter is found where it stands first. -/
theorem indexOf?_drop_eq_some_iff
    (inLine : place ≤ line.length)
    {offset : Nat} :
    Text.indexOf? delimiter (line.drop place) = some offset ↔
      FirstFrom delimiter line place (place + offset) := by
  have shifted {found : Nat} (first : FirstFrom delimiter (line.drop place) 0 found) :
      FirstFrom delimiter line place (place + found) := by
    refine ⟨Nat.le_add_right _ _, (standsAt_drop_iff inLine found).mp first.stands, ?_⟩
    intro earlier isBehind isEarlier stands
    obtain ⟨before, rfl⟩ := Nat.exists_eq_add_of_le isBehind
    exact first.noneEarlier before (Nat.zero_le _) (Nat.lt_of_add_lt_add_left isEarlier)
      ((standsAt_drop_iff inLine before).mpr stands)
  constructor
  · intro isFound
    exact shifted (firstFrom_of_indexOf? isFound)
  · intro first
    cases found : Text.indexOf? delimiter (line.drop place) with
    | none =>
        exact absurd ((standsAt_drop_iff inLine offset).mpr first.stands)
          (not_standsAt_of_indexOf? found offset)
    | some other =>
        rw [Nat.add_left_cancel (first.unique (shifted (firstFrom_of_indexOf? found)))]

/-- From a place on, a delimiter is found nowhere where it stands nowhere. -/
theorem indexOf?_drop_eq_none_iff (inLine : place ≤ line.length) :
    Text.indexOf? delimiter (line.drop place) = none ↔
      ∀ later, place ≤ later → ¬ StandsAt delimiter line later := by
  constructor
  · intro nowhere later isBehind stands
    obtain ⟨offset, rfl⟩ := Nat.exists_eq_add_of_le isBehind
    exact not_standsAt_of_indexOf? nowhere offset ((standsAt_drop_iff inLine offset).mpr stands)
  · intro standsNowhere
    cases found : Text.indexOf? delimiter (line.drop place) with
    | none =>
        rfl
    | some offset =>
        have first := (indexOf?_drop_eq_some_iff inLine).mp found
        exact absurd first.stands (standsNowhere _ first.behind)

end Searching

section Opening

variable {constructs : List Construct} {line text : List Char} {place : Nat}

/-- What a text goes on with is what opens first there. -/
theorem opensFirst_of_opening?
    {holder : Holder constructs}
    (opens : opening? constructs text = some holder) :
    OpensFirst constructs text 0 0 holder where
  behind := Nat.le_refl _
  opens := ⟨Nat.zero_le _, prefix_of_opening? opens⟩
  noneEarlier := nofun
  noneBefore := by
    intro other isBefore stands
    obtain ⟨-, index, inRange, isHere, notEarlier⟩ := List.find?_eq_some_iff_getElem.mp opens
    have sameIndex : holder.val = index := by
      rw [← isHere, List.getElem_finRange]
      rfl
    have begins := notEarlier other.val (sameIndex ▸ isBefore)
    rw [List.getElem_finRange] at begins
    simp only [Bool.not_eq_true', Bool.eq_false_iff, ne_eq, List.isPrefixOf_iff_prefix] at begins
    exact begins stands.2

/-- What opens nowhere at the start of a text does not stand there. -/
theorem not_standsAt_of_opening?
    (opensNothing : opening? constructs text = none)
    (holder : Holder constructs) :
    ¬ StandsAt holder.construct.opening text 0 := by
  rintro ⟨-, begins⟩
  rw [List.drop_zero] at begins
  obtain ⟨other, opens⟩ := exists_opening? holder.construct_mem begins
  rw [opensNothing] at opens
  contradiction

/-- The earliest opening of a text, by the places where opening delimiters stand. -/
def IsEarliest (constructs : List Construct) (text : List Char) : Option (Nat × Nat) → Prop
  | none =>
      ∀ holder : Holder constructs,
        ∀ place, ¬ StandsAt holder.construct.opening text place
  | some (start, number) =>
      ∃ holder, holder.number = number ∧ OpensFirst constructs text 0 start holder

/-- The earliest opening behind the first character of a text, at which nothing opens. -/
theorem IsEarliest.cons
    {c : Char}
    {earliest : Option (Nat × Nat)}
    (isEarliest : IsEarliest constructs text earliest)
    (opensNothing : opening? constructs (c :: text) = none) :
    IsEarliest constructs (c :: text) (earliest.map (Prod.map (· + 1) id)) := by
  have notHere := not_standsAt_of_opening? opensNothing
  cases earliest with
  | none =>
      intro holder place stands
      cases place with
      | zero =>
          exact notHere holder stands
      | succ place =>
          exact isEarliest holder place (standsAt_cons_succ_iff.mp stands)
  | some opening =>
      obtain ⟨start, number⟩ := opening
      obtain ⟨holder, isNumber, first⟩ := isEarliest
      refine ⟨holder, isNumber, Nat.zero_le _, standsAt_cons_succ_iff.mpr first.opens, ?_, ?_⟩
      · intro other earlier _ isEarlier stands
        cases earlier with
        | zero =>
            exact notHere other stands
        | succ earlier =>
            exact first.noneEarlier other earlier (Nat.zero_le _)
              (Nat.lt_of_succ_lt_succ isEarlier) (standsAt_cons_succ_iff.mp stands)
      · intro other isBefore stands
        exact first.noneBefore other isBefore (standsAt_cons_succ_iff.mp stands)

/-- The search for the earliest opening finds it. -/
theorem earliestOpen?_isEarliest (constructs : List Construct) (text : List Char) :
    IsEarliest constructs text (earliestOpen? constructs text) := by
  induction text with
  | nil =>
      cases opens : opening? constructs [] with
      | some holder =>
          rw [earliestOpen?_of_opening opens]
          exact ⟨holder, rfl, opensFirst_of_opening? opens⟩
      | none =>
          have notHere := not_standsAt_of_opening? opens
          cases found : earliestOpen? constructs [] with
          | none =>
              intro holder place stands
              obtain rfl := Nat.le_zero.mp stands.1
              exact notHere holder stands
          | some opening =>
              obtain ⟨start, number⟩ := opening
              obtain ⟨holder, -, isFound⟩ := exists_holder_of_earliestOpen? found
              have stands := (firstFrom_of_indexOf? isFound).stands
              obtain rfl := Nat.le_zero.mp stands.1
              exact absurd stands (notHere holder)
  | cons c rest inductionHypothesis =>
      cases opens : opening? constructs (c :: rest) with
      | some holder =>
          rw [earliestOpen?_of_opening opens]
          exact ⟨holder, rfl, opensFirst_of_opening? opens⟩
      | none =>
          rw [earliestOpen?_of_not_opening opens]
          exact inductionHypothesis.cons opens

/-- One construct at most opens first, and at one place. -/
theorem OpensFirst.unique
    {first second : Nat}
    {firstHolder secondHolder : Holder constructs}
    (isFirst : OpensFirst constructs line place first firstHolder)
    (isSecond : OpensFirst constructs line place second secondHolder) :
    first = second ∧ firstHolder = secondHolder := by
  have samePlace : first = second := by
    have notBefore := isFirst.noneEarlier secondHolder second isSecond.behind
    have notBehind := isSecond.noneEarlier firstHolder first isFirst.behind
    rcases Nat.lt_trichotomy first second with isLess | same | isMore
    · exact absurd isFirst.opens (notBehind isLess)
    · exact same
    · exact absurd isSecond.opens (notBefore isMore)
  subst samePlace
  refine ⟨rfl, ?_⟩
  rcases Nat.lt_trichotomy firstHolder.val secondHolder.val with isLess | same | isMore
  · exact absurd isFirst.opens (isSecond.noneBefore _ isLess)
  · exact Fin.ext same
  · exact absurd isSecond.opens (isFirst.noneBefore _ isMore)

theorem opensFirst_drop_iff
    (inLine : place ≤ line.length)
    {offset : Nat}
    {holder : Holder constructs} :
    OpensFirst constructs (line.drop place) 0 offset holder ↔
      OpensFirst constructs line place (place + offset) holder := by
  constructor
  · intro first
    refine ⟨Nat.le_add_right _ _, (standsAt_drop_iff inLine offset).mp first.opens, ?_, ?_⟩
    · intro other earlier isBehind isEarlier stands
      obtain ⟨before, rfl⟩ := Nat.exists_eq_add_of_le isBehind
      exact first.noneEarlier other before (Nat.zero_le _)
        (Nat.lt_of_add_lt_add_left isEarlier) ((standsAt_drop_iff inLine before).mpr stands)
    · intro other isBefore stands
      exact first.noneBefore other isBefore ((standsAt_drop_iff inLine offset).mpr stands)
  · intro first
    refine ⟨Nat.zero_le _, (standsAt_drop_iff inLine offset).mpr first.opens, ?_, ?_⟩
    · intro other earlier _ isEarlier stands
      exact first.noneEarlier other (place + earlier) (Nat.le_add_right _ _)
        (Nat.add_lt_add_left isEarlier place) ((standsAt_drop_iff inLine earlier).mp stands)
    · intro other isBefore stands
      exact first.noneBefore other isBefore ((standsAt_drop_iff inLine offset).mp stands)

/-- From a place on, the search finds what opens first. -/
theorem earliestOpen?_drop_eq_some_iff
    (inLine : place ≤ line.length)
    {offset : Nat}
    {holder : Holder constructs} :
    earliestOpen? constructs (line.drop place) = some (offset, holder.number) ↔
      OpensFirst constructs line place (place + offset) holder := by
  rw [← opensFirst_drop_iff inLine]
  have isEarliest := earliestOpen?_isEarliest constructs (line.drop place)
  constructor
  · intro found
    rw [found] at isEarliest
    obtain ⟨other, sameNumber, first⟩ := isEarliest
    have same : other = holder := Fin.ext (Nat.succ.inj sameNumber)
    exact same ▸ first
  · intro first
    cases found : earliestOpen? constructs (line.drop place) with
    | none =>
        rw [found] at isEarliest
        exact absurd first.opens (isEarliest holder offset)
    | some opening =>
        rw [found] at isEarliest
        obtain ⟨start, number⟩ := opening
        obtain ⟨other, rfl, otherFirst⟩ := isEarliest
        obtain ⟨rfl, rfl⟩ := first.unique otherFirst
        rfl

/-- From a place on, the search finds nothing where nothing opens. -/
theorem earliestOpen?_drop_eq_none_iff (inLine : place ≤ line.length) :
    earliestOpen? constructs (line.drop place) = none ↔
      ∀ holder : Holder constructs,
        ∀ later, place ≤ later → ¬ StandsAt holder.construct.opening line later := by
  have isEarliest := earliestOpen?_isEarliest constructs (line.drop place)
  constructor
  · intro found holder later isBehind stands
    rw [found] at isEarliest
    obtain ⟨offset, rfl⟩ := Nat.exists_eq_add_of_le isBehind
    exact isEarliest holder offset ((standsAt_drop_iff inLine offset).mpr stands)
  · intro noneOpens
    cases found : earliestOpen? constructs (line.drop place) with
    | none =>
        rfl
    | some opening =>
        obtain ⟨start, number⟩ := opening
        rw [found] at isEarliest
        obtain ⟨holder, -, first⟩ := isEarliest
        have firstThere := (opensFirst_drop_iff inLine).mp first
        exact absurd firstThere.opens (noneOpens holder _ firstThere.behind)

end Opening

section Scanning

variable {grammar : Grammar} {line : List Char} {place start : Nat}

/-- What stands at a place fits into the line from there on. -/
theorem StandsAt.fits
    {delimiter : List Char}
    (stands : StandsAt delimiter line place) :
    place + delimiter.length ≤ line.length := by
  obtain ⟨inLine, begins⟩ := stands
  have fits := begins.length_le
  rw [List.length_drop] at fits
  omega

/-- The paints of a scan that goes on outside of constructs, or inside of one. -/
def paintsFrom?
    (grammar : Grammar)
    (line : List Char)
    (painted : List Paint) : Option (Nat × Construct) → Nat → Option (List Paint)
  | none, place => (grammar.scanOn? painted place (line.drop place)).map Prod.fst
  | some (start, construct), place =>
      match Text.indexOf? construct.closing (line.drop place) with
      | none => some (painted.reverse ++ [⟨start, line.length, construct.tokenClass⟩])
      | some offset =>
          let stop := place + offset + construct.closing.length
          (grammar.scanOn? (⟨start, stop, construct.tokenClass⟩ :: painted) stop
            (line.drop stop)).map Prod.fst

/-- A scan that stays where it is has no paints. -/
theorem scanOn?_of_staysAt
    {text : List Char}
    (stays : StaysAt grammar text)
    (painted : List Paint)
    (column : Nat) :
    grammar.scanOn? painted column text = none :=
  Option.eq_none_iff_forall_ne_some.mpr fun _ ends => not_staysAt_of_scanOn? ends stays

/-- A construct without characters that opens first opens where one begins to look for it. -/
theorem OpensFirst.staysAt
    {holder : Holder grammar.constructs}
    (first : OpensFirst grammar.constructs line place start holder)
    (takesNothing : holder.construct.TakesNothing) :
    start = place ∧ StaysAt grammar (line.drop place) := by
  have inLine := Nat.le_trans first.behind first.opens.1
  have standsHere : StandsAt holder.construct.opening line place :=
    ⟨inLine, takesNothing.1 ▸ List.nil_prefix⟩
  have same : start = place :=
    Nat.le_antisymm
      (Nat.le_of_not_lt fun isBehind =>
        first.noneEarlier holder place (Nat.le_refl _) isBehind standsHere)
      first.behind
  refine ⟨same, ?_⟩
  -- Nothing that stands before it in the table opens there.
  obtain ⟨other, opens⟩ := exists_opening? holder.construct_mem standsHere.2
  have otherFirst := (opensFirst_drop_iff inLine).mp (opensFirst_of_opening? opens)
  obtain ⟨-, rfl⟩ := otherFirst.unique (same ▸ first)
  exact ⟨other, opens, takesNothing⟩

/-- What a round makes of the construct that opens first. -/
theorem constructStep_of_opensFirst
    (inLine : place ≤ line.length)
    {offset : Nat}
    {holder : Holder grammar.constructs}
    (first : OpensFirst grammar.constructs line place (place + offset) holder) :
    constructStep grammar (line.drop place) =
      match
        Text.indexOf? holder.construct.closing
          (line.drop (place + offset + holder.construct.opening.length))
      with
      | none => .unclosed offset holder.number holder.construct.tokenClass
      | some inner =>
          .closed offset
            (offset + holder.construct.opening.length + inner + holder.construct.closing.length)
            holder.construct.tokenClass := by
  have isFirst := (earliestOpen?_drop_eq_some_iff inLine).mpr first
  have behind :
      (line.drop place).drop (offset + holder.construct.opening.length) =
        line.drop (place + offset + holder.construct.opening.length) := by
    rw [List.drop_drop, ← Nat.add_assoc]
  cases closes :
      Text.indexOf? holder.construct.closing
        (line.drop (place + offset + holder.construct.opening.length)) with
  | none | some inner =>
      simp only [constructStep, isFirst, holder.construct?_number, behind, closes]

/-- A scan goes on inside of the construct that opens first. -/
theorem paintsFrom?_of_opensFirst
    (inLine : place ≤ line.length)
    {holder : Holder grammar.constructs}
    (first : OpensFirst grammar.constructs line place start holder)
    (painted : List Paint) :
    paintsFrom? grammar line painted none place =
      paintsFrom? grammar line painted (some (start, holder.construct))
        (start + holder.construct.opening.length) := by
  have fits := first.opens.fits
  obtain ⟨offset, rfl⟩ := Nat.exists_eq_add_of_le first.behind
  have step := constructStep_of_opensFirst inLine first
  unfold paintsFrom?
  dsimp only
  cases closes :
      Text.indexOf? holder.construct.closing
        (line.drop (place + offset + holder.construct.opening.length)) with
  | none =>
      rw [closes] at step
      rw [Grammar.scanOn?, step]
      simp [Nat.add_sub_cancel' inLine]
  | some inner =>
      rw [closes] at step
      have stop :
          place +
              (offset + holder.construct.opening.length + inner +
                holder.construct.closing.length) =
            place + offset + holder.construct.opening.length + inner +
              holder.construct.closing.length := by
        omega
      by_cases takesSome :
          offset <
            offset + holder.construct.opening.length + inner + holder.construct.closing.length
      · rw [Grammar.scanOn?, step]
        dsimp only
        rw [if_pos takesSome, List.drop_drop, stop]
      · -- Neither of the scans comes to its end.
        have takesNothing : holder.construct.TakesNothing :=
          ⟨List.length_eq_zero_iff.mp (by omega), List.length_eq_zero_iff.mp (by omega)⟩
        obtain ⟨here, stays⟩ := first.staysAt takesNothing
        have goesNowhere :
            place + offset + holder.construct.opening.length + inner +
                holder.construct.closing.length =
              place := by
          omega
        dsimp only
        rw [goesNowhere, scanOn?_of_staysAt stays, scanOn?_of_staysAt stays]

/-- Where regions come to an end the scan paints them. -/
theorem paintsFrom?_of_regions
    {isOpen : Option (Nat × Construct)}
    {regions : List Paint}
    (isRegions : Regions grammar.constructs line isOpen place regions)
    (inLine : place ≤ line.length)
    (painted : List Paint) :
    paintsFrom? grammar line painted isOpen place = some (painted.reverse ++ regions) := by
  induction isRegions generalizing painted with
  | outside noneOpens =>
      rw [paintsFrom?, Grammar.scanOn?, constructStep,
        (earliestOpen?_drop_eq_none_iff inLine).mpr noneOpens]
      simp
  | opens first inside inductionHypothesis =>
      rw [paintsFrom?_of_opensFirst inLine first]
      exact inductionHypothesis first.opens.fits painted
  | staysOpen closesNowhere =>
      rw [paintsFrom?, (indexOf?_drop_eq_none_iff inLine).mpr closesNowhere]
  | closes first behind inductionHypothesis =>
      obtain ⟨offset, rfl⟩ := Nat.exists_eq_add_of_le first.behind
      rw [paintsFrom?, (indexOf?_drop_eq_some_iff inLine).mpr first]
      refine (inductionHypothesis first.stands.fits _).trans ?_
      rw [List.reverse_cons, List.append_assoc, List.singleton_append]

/-- A scan outside of constructs that comes to its end has regions. -/
theorem exists_regions_of_scanOn?
    {column : Nat}
    {painted : List Paint}
    {scanned : List Paint × CarryState}
    (inLine : place ≤ line.length)
    (ends : grammar.scanOn? painted column (line.drop place) = some scanned) :
    ∃ regions, Regions grammar.constructs line none place regions := by
  refine
    Grammar.scanOn?.partial_correctness grammar
      (fun _ _ text _ =>
        ∀ place ≤ line.length,
          text = line.drop place →
            ∃ regions, Regions grammar.constructs line none place regions)
      ?_ painted column _ scanned ends place inLine rfl
  intro goOn inductionHypothesis painted column text scanned ends place inLine isRest
  subst isRest
  cases found : earliestOpen? grammar.constructs (line.drop place) with
  | none =>
      exact ⟨_, .outside ((earliestOpen?_drop_eq_none_iff inLine).mp found)⟩
  | some opening =>
      obtain ⟨offset, number⟩ := opening
      obtain ⟨holder, rfl, -⟩ := exists_holder_of_earliestOpen? found
      have first := (earliestOpen?_drop_eq_some_iff inLine).mp found
      have step := constructStep_of_opensFirst inLine first
      cases closes :
          Text.indexOf? holder.construct.closing
            (line.drop (place + offset + holder.construct.opening.length)) with
      | none =>
          have closesNowhere := (indexOf?_drop_eq_none_iff first.opens.fits).mp closes
          exact ⟨_, .opens first (.staysOpen closesNowhere)⟩
      | some inner =>
          have firstClosing := (indexOf?_drop_eq_some_iff first.opens.fits).mp closes
          rw [closes] at step
          simp only [step, List.drop_drop] at ends
          obtain ⟨regions, behind⟩ :=
            inductionHypothesis _ _ _ _ ends _ firstClosing.stands.fits
              (congrArg line.drop (by omega))
          exact ⟨_, .opens first (.closes firstClosing behind)⟩

/-- A scan that comes to its end has regions, wherever it goes on. -/
theorem exists_regions_of_paintsFrom?
    {isOpen : Option (Nat × Construct)}
    {painted paints : List Paint}
    (inLine : place ≤ line.length)
    (ends : paintsFrom? grammar line painted isOpen place = some paints) :
    ∃ regions, Regions grammar.constructs line isOpen place regions := by
  cases isOpen with
  | none =>
      obtain ⟨scanned, ends, -⟩ := Option.map_eq_some_iff.mp ends
      exact exists_regions_of_scanOn? inLine ends
  | some opened =>
      obtain ⟨start, construct⟩ := opened
      rw [paintsFrom?] at ends
      cases closes : Text.indexOf? construct.closing (line.drop place) with
      | none =>
          exact ⟨_, .staysOpen ((indexOf?_drop_eq_none_iff inLine).mp closes)⟩
      | some offset =>
          have first := (indexOf?_drop_eq_some_iff inLine).mp closes
          rw [closes] at ends
          obtain ⟨scanned, ends, -⟩ := Option.map_eq_some_iff.mp ends
          obtain ⟨regions, behind⟩ := exists_regions_of_scanOn? first.stands.fits ends
          exact ⟨_, .closes first behind⟩

/-- What is open in front of a line, with its region beginning where the line does. -/
def openAtStart (grammar : Grammar) (incoming : CarryState) : Option (Nat × Construct) :=
  (incoming.bind grammar.construct?).map fun construct => (0, construct)

/-- A scan of a line comes to its end exactly if there are regions, and paints these. -/
theorem scanConstructs?_iff
    {incoming : CarryState}
    {regions : List Paint} :
    (∃ carry, scanConstructs? grammar line incoming = some (regions, carry)) ↔
      Regions grammar.constructs line (openAtStart grammar incoming) 0 regions := by
  have scanned :
      (scanConstructs? grammar line incoming).map Prod.fst =
        paintsFrom? grammar line [] (openAtStart grammar incoming) 0 := by
    unfold scanConstructs? openAtStart
    cases incoming.bind grammar.construct? with
    | none =>
        rfl
    | some construct =>
        dsimp only [Option.map_some]
        rw [paintsFrom?, List.drop_zero]
        cases Text.indexOf? construct.closing line with
        | none =>
            rfl
        | some offset =>
            simp only [Nat.zero_add]
  have asPaints :
      (∃ carry, scanConstructs? grammar line incoming = some (regions, carry)) ↔
        paintsFrom? grammar line [] (openAtStart grammar incoming) 0 = some regions := by
    rw [← scanned, Option.map_eq_some_iff]
    constructor
    · rintro ⟨carry, ends⟩
      exact ⟨_, ends, rfl⟩
    · rintro ⟨⟨paints, carry⟩, ends, rfl⟩
      exact ⟨carry, ends⟩
  rw [asPaints]
  constructor
  · intro ends
    obtain ⟨painted, isRegions⟩ := exists_regions_of_paintsFrom? (Nat.zero_le _) ends
    have same := paintsFrom?_of_regions isRegions (Nat.zero_le _) []
    rw [List.reverse_nil, List.nil_append, ends] at same
    rwa [Option.some.inj same]
  · intro isRegions
    exact paintsFrom?_of_regions isRegions (Nat.zero_le _) []

/-- Regions lie one behind the other. -/
theorem Regions.apart
    {constructs : List Construct}
    {isOpen : Option (Nat × Construct)}
    {regions : List Paint}
    (isRegions : Regions constructs line isOpen place regions)
    (openBefore : ∀ opened ∈ isOpen, opened.1 ≤ place) :
    (∀ region ∈ regions, isOpen.elim place Prod.fst ≤ region.start) ∧
      regions.Pairwise fun first second => first.stop ≤ second.start := by
  induction isRegions with
  | outside noneOpens =>
      exact ⟨nofun, .nil⟩
  | opens first inside inductionHypothesis =>
      obtain ⟨starts, apart⟩ := inductionHypothesis (by simp)
      exact ⟨fun region member => Nat.le_trans first.behind (starts region member), apart⟩
  | staysOpen closesNowhere =>
      exact ⟨by simp, List.pairwise_singleton _ _⟩
  | closes first behind inductionHypothesis =>
      obtain ⟨starts, apart⟩ := inductionHypothesis nofun
      refine ⟨List.forall_mem_cons.mpr ⟨Nat.le_refl _, ?_⟩, List.pairwise_cons.mpr ⟨starts, apart⟩⟩
      intro region member
      have isBehind := starts region member
      have wasBefore := openBefore _ rfl
      have closesBehind := first.behind
      dsimp only [Option.elim] at isBehind wasBefore ⊢
      omega

end Scanning

end ChordEditor.Highlight
