import ChordEditor.JumpList

namespace ChordEditor.JumpList

/-!
# Going back and forward again

Going back and going forward move one place between the two sides of a jump list, so both
sides together never hold more than a jump leaves (`size_run_le`).  Each step leaves the
place that it came from on the other side, where a step the other way finds it: going
forward as often as one went back leads through the same places to where one was
(`forward_retraces_back`).
-/

/-- What can be done to a jump list. -/
inductive Operation where
  | push (place : Nat)
  | back (current : Nat)
  | forward (current : Nat)
  | clear
  deriving Repr, DecidableEq

/-- A jump list after an operation; where there is no place to go to nothing changes. -/
def run (jumps : JumpList) : Operation → JumpList
  | .push place => jumps.push place
  | .back current => ((jumps.back? current).map Prod.snd).getD jumps
  | .forward current => ((jumps.forward? current).map Prod.snd).getD jumps
  | .clear => jumps.clear

/-- The jump list that operations leave, one after the other. -/
def afterAll (operations : List Operation) : JumpList :=
  operations.foldl run {}

/-- How many places there are to go to. -/
def size (jumps : JumpList) : Nat :=
  jumps.behind.length + jumps.ahead.length

/-- A way to go, from the current place: the place that is reached, and the list then. -/
abbrev Way := JumpList → Nat → Option (Nat × JumpList)

/--
Several steps of one way, each from the place that was reached before: the places that
they reach in their order, and the list that they leave.
-/
inductive Goes (way : Way) : JumpList → Nat → List Nat → JumpList → Prop
  | done {jumps : JumpList} {current : Nat} : Goes way jumps current [] jumps
  | step {jumps next last : JumpList} {current place : Nat} {places : List Nat} :
      way jumps current = some (place, next) →
        Goes way next place places last → Goes way jumps current (place :: places) last

variable {jumps after : JumpList} {current place : Nat} {places : List Nat}

/-- Forward leads back to where one came from, and only there. -/
theorem back?_eq_some_iff :
    jumps.back? current = some (place, after) ↔
      after.forward? place = some (current, jumps) := by
  rcases jumps with ⟨_ | ⟨nearest, older⟩, ahead⟩ <;>
    rcases after with ⟨behind, _ | ⟨next, newer⟩⟩ <;>
      simp [back?, forward?]
  grind

section Size

theorem size_back
    (found : jumps.back? current = some (place, after)) :
    after.size = jumps.size := by
  unfold back? at found
  split at found
  · contradiction
  · rename_i isBehind
    cases found
    simp only [size, isBehind, List.length_cons]
    omega

/-- An operation keeps the sides together within the bound that a jump keeps. -/
theorem size_run_le
    (fits : jumps.size ≤ maxJumps)
    (operation : Operation) :
    (jumps.run operation).size ≤ maxJumps := by
  cases operation with
  | push place =>
      have kept :
          (if jumps.behind.length ≥ maxJumps then
            jumps.behind.dropLast
          else
            jumps.behind).length < maxJumps := by
        unfold size at fits
        split
        · rw [List.length_dropLast]
          unfold maxJumps at *
          omega
        · omega
      exact kept
  | back current =>
      rw [run]
      cases found : jumps.back? current with
      | none =>
          exact fits
      | some reached =>
          exact Nat.le_trans (Nat.le_of_eq (size_back found)) fits
  | forward current =>
      rw [run]
      cases found : jumps.forward? current with
      | none =>
          exact fits
      | some reached =>
          exact Nat.le_trans (Nat.le_of_eq (size_back (back?_eq_some_iff.mpr found)).symm) fits
  | clear =>
      exact Nat.zero_le _

theorem size_afterAll_le (operations : List Operation) :
    (afterAll operations).size ≤ maxJumps := by
  unfold afterAll
  have fits : ({} : JumpList).size ≤ maxJumps := Nat.zero_le _
  generalize ({} : JumpList) = jumps at fits
  induction operations generalizing jumps with
  | nil =>
      exact fits
  | cons operation operations inductionHypothesis =>
      exact inductionHypothesis _ (size_run_le fits operation)

end Size

section Ways

variable {way other : Way}

namespace Goes

/-- One step more. -/
theorem append_step
    {last : JumpList}
    (goes : Goes way jumps current places after)
    (found : way after (places.getLastD current) = some (place, last)) :
    Goes way jumps current (places ++ [place]) last := by
  induction goes with
  | done =>
      exact .step found .done
  | step first _ inductionHypothesis =>
      rw [List.getLastD_cons] at found
      exact .step first (inductionHypothesis found)

/-- Where each step of a way has one of another way that undoes it, so have several. -/
theorem retraced
    (undoes :
      ∀ {jumps current place after},
        way jumps current = some (place, after) → other after place = some (current, jumps))
    (goes : Goes way jumps current places after) :
    Goes other after (places.getLastD current) (current :: places).dropLast.reverse
      jumps := by
  induction goes with
  | done =>
      exact .done
  | @step jumps next last current place places first _ inductionHypothesis =>
      rw [List.getLastD_cons, List.dropLast_cons_of_ne_nil (List.cons_ne_nil _ _),
        List.reverse_cons]
      apply inductionHypothesis.append_step
      -- The place that is reached last is the one that the first step led to.
      have arrives :
          (place :: places).dropLast.reverse.getLastD (places.getLastD place) = place := by
        cases places <;> simp [List.getLastD_eq_getLast?]
      rw [arrives]
      exact undoes first

end Goes

end Ways

/-- Going back leads through the places behind, from the nearest one on. -/
theorem exists_goes_back_iff :
    (∃ after, Goes back? jumps current places after) ↔ places <+: jumps.behind := by
  induction places generalizing jumps current with
  | nil =>
      exact iff_of_true ⟨jumps, .done⟩ List.nil_prefix
  | cons place places inductionHypothesis =>
      obtain ⟨behind, ahead⟩ := jumps
      cases behind with
      | nil =>
          refine iff_of_false ?_ (by simp)
          rintro ⟨after, goes⟩
          cases goes with
          | step found _ =>
              contradiction
      | cons nearest older =>
          rw [List.cons_prefix_cons]
          constructor
          · rintro ⟨after, goes⟩
            cases goes with
            | step found goes =>
                cases found
                exact ⟨rfl, inductionHypothesis.mp ⟨after, goes⟩⟩
          · rintro ⟨rfl, isBehind⟩
            have goesOn :
                ∃ after, Goes back? ⟨older, current :: ahead⟩ place places after :=
              inductionHypothesis.mpr isBehind
            obtain ⟨after, goes⟩ := goesOn
            exact ⟨after, .step rfl goes⟩

/--
At most a hundred places are kept, on both sides together.  From wherever one goes back,
through places behind one, forward leads through them again and to where one was, and
leaves both sides as they were.
-/
theorem forward_retraces_back (operations : List Operation) :
    (afterAll operations).size ≤ maxJumps ∧
      ∀ current places,
        ((∃ after, Goes back? (afterAll operations) current places after) ↔
          places <+: (afterAll operations).behind) ∧
        ∀ after,
          Goes back? (afterAll operations) current places after →
            Goes forward? after (places.getLastD current)
              (current :: places).dropLast.reverse (afterAll operations) := by
  refine ⟨size_afterAll_le operations, ?_⟩
  intro current places
  exact ⟨exists_goes_back_iff, fun after goes => goes.retraced back?_eq_some_iff.mp⟩

/-- A hundred and one jumps, the first of which is dropped, and one step back from the last. -/
def manyJumps : List Operation :=
  (List.range 101).map Operation.push ++ [.back 500]

/-- Two steps further back, and forward again. -/
theorem many_jumps_retraced :
    ∃ after,
      Goes back? (afterAll manyJumps) 100 [99, 98] after ∧
        Goes forward? after 98 [99, 100] (afterAll manyJumps) := by
  obtain ⟨within, retraced⟩ := (forward_retraces_back manyJumps).2 100 [99, 98]
  have isBehind : [99, 98] <+: (afterAll manyJumps).behind := by
    decide +kernel
  obtain ⟨after, goes⟩ := within.mpr isBehind
  exact ⟨after, goes, retraced after goes⟩

end ChordEditor.JumpList
