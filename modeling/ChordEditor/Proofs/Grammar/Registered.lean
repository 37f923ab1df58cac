import ChordEditor.Grammar.Registry
import Mathlib.Data.List.Induction

namespace ChordEditor.GrammarRegistry

/-!
# Grammars found in a registry

A registry is what its registrations have made it.  An alias stands for the name of the
grammar that was the last to get it, any other text for itself, and a name for the grammar
that was the last to be registered under it.  An alias goes before a name however old it
is, and it follows its name to a grammar registered under that name later.  So a grammar
is found under a name or an alias that comes up in no later registration, unless one of
these two gets in between (`registered_found_iff`).
-/

/-- A grammar with the aliases that it is registered under. -/
structure Registration where
  grammar : Grammar
  aliases : List String

/-- The name and the aliases of a grammar. -/
def Registration.names (registration : Registration) : List String :=
  registration.grammar.name :: registration.aliases

/-- The registry that some registrations make, one after another. -/
def ofRegistrations (registrations : List Registration) : GrammarRegistry :=
  registrations.foldl
    (fun registry registration => registry.register registration.grammar registration.aliases)
    {}

/-- The last registration with an alias. -/
def lastWithAlias? (registrations : List Registration) (key : String) : Option Registration :=
  (registrations.filter (key ∈ ·.aliases)).getLast?

/-- The last registration of a grammar with a name. -/
def lastNamed? (registrations : List Registration) (name : String) : Option Registration :=
  (registrations.filter (·.grammar.name = name)).getLast?

/-- The name that a text stands for. -/
def nameFor (registrations : List Registration) (key : String) : String :=
  ((lastWithAlias? registrations key).map (·.grammar.name)).getD key

section Lookups

variable {registrations : List Registration}

theorem ofRegistrations_concat (registrations : List Registration) (registration : Registration) :
    ofRegistrations (registrations ++ [registration]) =
      (ofRegistrations registrations).register registration.grammar registration.aliases :=
  List.foldl_append

/-- New aliases stand for their name, all others for what they stood for before. -/
theorem lookup_foldl_aliases
    (aliases : List String)
    (name : String)
    (known : List (String × String))
    (key : String) :
    (aliases.foldl (fun known other => (other, name) :: known) known).lookup key =
      if key ∈ aliases then some name else known.lookup key := by
  induction aliases generalizing known with
  | nil =>
      rfl
  | cons other aliases inductionHypothesis =>
      rw [List.foldl_cons, inductionHypothesis, List.lookup_cons]
      by_cases isOther : key = other
      · simp [isOther]
      · simp [isOther, beq_eq_false_iff_ne.mpr isOther]

/-- An alias stands for the name of the last grammar registered with it. -/
theorem lookup_aliases (registrations : List Registration) (key : String) :
    (ofRegistrations registrations).aliases.lookup key =
      (lastWithAlias? registrations key).map (·.grammar.name) := by
  induction registrations using List.reverseRecOn with
  | nil =>
      rfl
  | append_singleton registrations registration inductionHypothesis =>
      rw [ofRegistrations_concat, register, lookup_foldl_aliases, inductionHypothesis,
        lastWithAlias?, lastWithAlias?, List.filter_append, List.getLast?_append]
      by_cases hasAlias : key ∈ registration.aliases <;> simp [hasAlias]

/-- A name stands for the last grammar registered under it. -/
theorem lookup_grammars (registrations : List Registration) (name : String) :
    (ofRegistrations registrations).grammars.lookup name =
      (lastNamed? registrations name).map (·.grammar) := by
  induction registrations using List.reverseRecOn with
  | nil =>
      rfl
  | append_singleton registrations registration inductionHypothesis =>
      rw [ofRegistrations_concat, register, List.lookup_cons, inductionHypothesis,
        lastNamed?, lastNamed?, List.filter_append, List.getLast?_append]
      by_cases isName : name = registration.grammar.name
      · simp [isName]
      · simp [beq_eq_false_iff_ne.mpr isName, Ne.symm isName]

/-- What is found is the last grammar registered under the name that a text stands for. -/
theorem get_eq_ok_iff {asked : String} {grammar : Grammar} :
    (ofRegistrations registrations).get asked = .ok grammar ↔
      ∃ last,
        lastNamed? registrations (nameFor registrations (Text.asciiLower asked)) = some last ∧
          last.grammar = grammar := by
  unfold get
  dsimp only
  rw [lookup_aliases, lookup_grammars, ← nameFor]
  cases lastNamed? registrations (nameFor registrations (Text.asciiLower asked)) <;> simp

end Lookups

section Between

variable
  {before after : List Registration}
  {registration : Registration}
  {name : String}

/--
The name that a grammar's own alias or name stands for, if it comes up in no later
registration.
-/
theorem nameFor_eq_iff
    (isName : name ∈ registration.names)
    (notLater : ∀ later ∈ after, name ∉ later.names) :
    nameFor (before ++ registration :: after) name = registration.grammar.name ↔
      (name ∉ registration.aliases →
        ∀ older, lastWithAlias? before name = some older → older.grammar.name = name) := by
  have noneLater : after.filter (name ∈ ·.aliases) = [] := by
    rw [List.filter_eq_nil_iff]
    intro later isLater
    rw [decide_eq_true_iff]
    exact fun hasAlias => notLater later isLater (List.mem_cons_of_mem _ hasAlias)
  unfold nameFor lastWithAlias?
  rw [List.filter_append, List.filter_cons, noneLater]
  by_cases hasAlias : name ∈ registration.aliases
  · simp [hasAlias]
  · obtain rfl : name = registration.grammar.name :=
      (List.mem_cons.mp isName).resolve_right hasAlias
    rw [if_neg (by simpa using hasAlias), List.append_nil]
    cases (before.filter (registration.grammar.name ∈ ·.aliases)).getLast? with
    | none =>
        simp
    | some older =>
        simp [hasAlias]

/-- The last grammar with a name, seen from a registration under that name. -/
theorem exists_lastNamed?_iff (before after : List Registration) :
    (∃ last,
        lastNamed? (before ++ registration :: after) registration.grammar.name = some last ∧
          last.grammar = registration.grammar) ↔
      ∀ newer,
        lastNamed? after registration.grammar.name = some newer →
          newer.grammar = registration.grammar := by
  unfold lastNamed?
  rw [List.filter_append, List.filter_cons, if_pos (decide_eq_true rfl), List.getLast?_append,
    List.getLast?_cons]
  cases found : (after.filter (·.grammar.name = registration.grammar.name)).getLast? <;>
    simp

/--
A grammar is found in any ASCII letter case of a name or an alias without upper-case letters
that comes up in no later registration, but for two things.  Its name may be the alias of a
grammar registered before, and its alias follows its name to a grammar registered later.
-/
theorem registered_found_iff
    (before after : List Registration)
    {asked : String}
    (isName : name ∈ registration.names)
    (lowerCase : Text.asciiLower name = name)
    (asks : Text.asciiLower asked = Text.asciiLower name)
    (notLater :
      ∀ later ∈ after, ∀ other ∈ later.names, Text.asciiLower other ≠ Text.asciiLower name) :
    (ofRegistrations (before ++ registration :: after)).get asked = .ok registration.grammar ↔
      (name ∉ registration.aliases →
          ∀ older, lastWithAlias? before name = some older → older.grammar.name = name) ∧
        ∀ newer,
          lastNamed? after registration.grammar.name = some newer →
            newer.grammar = registration.grammar := by
  have notAgain : ∀ later ∈ after, name ∉ later.names := by
    intro later isLater member
    exact notLater later isLater name member rfl
  rw [get_eq_ok_iff, asks, lowerCase, ← nameFor_eq_iff isName notAgain,
    ← exists_lastNamed?_iff before after]
  constructor
  · rintro ⟨last, isLast, isGrammar⟩
    have standsFor :
        nameFor (before ++ registration :: after) name = registration.grammar.name := by
      have named := (List.mem_filter.mp (List.mem_of_getLast? isLast)).2
      rw [← of_decide_eq_true named, isGrammar]
    rw [standsFor] at isLast
    exact ⟨standsFor, last, isLast, isGrammar⟩
  · rintro ⟨standsFor, found⟩
    rwa [standsFor]

end Between

/-- A grammar of settings in sections. -/
def iniGrammar : Grammar where
  name := "ini"
  commentMarker := [';']
  numbered := Construct.numbered_nil

/-- Another grammar with the same name. -/
def hashIniGrammar : Grammar where
  name := "ini"
  commentMarker := ['#']
  numbered := Construct.numbered_nil

/-- A grammar of settings without sections. -/
def settingsGrammar : Grammar where
  name := "settings"
  commentMarker := ['#']
  numbered := Construct.numbered_nil

/-- An alias that no other grammar takes is found in capitals, too. -/
theorem alias_found_in_capitals :
    (ofRegistrations [⟨settingsGrammar, ["conf"]⟩, ⟨iniGrammar, ["cfg"]⟩,
        ⟨{ name := "plain", commentMarker := [] }, ["txt"]⟩]).get "CFG" =
      .ok iniGrammar := by
  have isAlias : "cfg" ∈ Registration.names ⟨iniGrammar, ["cfg"]⟩ := by
    decide
  exact
    (registered_found_iff [⟨settingsGrammar, ["conf"]⟩]
      [⟨{ name := "plain", commentMarker := [] }, ["txt"]⟩] isAlias (by decide)
      (by decide) (by decide)).mpr ⟨by decide, by decide⟩

/--
The grammar registered last is not found under its own name where that is an older alias, and
an alias that comes up only once is lost to a later grammar with the name of the first.
-/
theorem alias_hides_name_and_follows_it :
    (ofRegistrations [⟨settingsGrammar, ["ini"]⟩, ⟨iniGrammar, ["cfg"]⟩]).get "ini" ≠
        .ok iniGrammar ∧
      (ofRegistrations [⟨iniGrammar, ["cfg"]⟩, ⟨hashIniGrammar, []⟩]).get "cfg" ≠
        .ok iniGrammar := by
  have older :
      (ofRegistrations [⟨settingsGrammar, ["ini"]⟩, ⟨iniGrammar, ["cfg"]⟩]).get "ini" =
        .ok settingsGrammar :=
    rfl
  have newer :
      (ofRegistrations [⟨iniGrammar, ["cfg"]⟩, ⟨hashIniGrammar, []⟩]).get "cfg" =
        .ok hashIniGrammar :=
    rfl
  rw [older, newer]
  constructor
  · intro same
    exact absurd (Except.ok.inj same) (by decide)
  · intro same
    exact absurd (Except.ok.inj same) (by decide)

end ChordEditor.GrammarRegistry
