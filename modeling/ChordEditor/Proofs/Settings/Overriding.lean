import ChordEditor.Proofs.Json.ObjectKeys
import ChordEditor.Proofs.Settings.Readers

namespace ChordEditor

/-!
# Overriding settings

The members of a JSON object are all taken as settings, or none is.  Three places have to
agree on what a member means: which JSON values stand for a setting (`ofJson?`), what a
known setting has to be (`objection?`), and what its typed reader gives back
(`readTyped?`).  Here they are brought together in one condition on a member,
`isAcceptable`, and all else follows from what `overrideBy` makes of members that meet it
or do not (`overrideBy_cases`).
-/

/-- Whether a JSON value is of a type that settings have. -/
def JsonValue.isSetting : JsonValue → Bool
  | .bool _ | .string _ => true
  | .integer value => -(Nat.pow 2 63 : Int) ≤ value && value < Nat.pow 2 63
  | .null | .decimal _ | .array _ | .object _ => false

theorem SettingValue.ofJson?_eq_some_iff {json : JsonValue} {value : SettingValue} :
    ofJson? json = some value ↔ json.isSetting ∧ json = value.toJson := by
  cases json <;> cases value <;> simp [ofJson?, JsonValue.isSetting, toJson]

theorem SettingValue.exists_toJson_of_isSetting
    {json : JsonValue}
    (isSetting : json.isSetting) :
    ∃ value : SettingValue, json = value.toJson := by
  cases json with
  | bool value =>
      exact ⟨.bool value, rfl⟩
  | integer value =>
      exact ⟨.int value, rfl⟩
  | string text =>
      exact ⟨.string text, rfl⟩
  | null | decimal | array | object =>
      cases isSetting

/-- Whether a member of an object may override a setting. -/
def isAcceptable (member : String × JsonValue) : Bool :=
  member.2.isSetting && (SettingKind.known.lookup member.1).all fun kind => kind.takes member.2

theorem isAcceptable_iff {member : String × JsonValue} :
    isAcceptable member ↔
      member.2.isSetting ∧
        ∀ kind, SettingKind.known.lookup member.1 = some kind → kind.takes member.2 := by
  simp [isAcceptable, Option.all_eq_true]

namespace Settings

/-- The member of an object that stands for a setting. -/
def toMember (setting : String × SettingValue) : String × JsonValue :=
  (setting.1, setting.2.toJson)

theorem map_fst_map_toMember (values : List (String × SettingValue)) :
    (values.map toMember).map Prod.fst = values.map Prod.fst := by
  rw [List.map_map]
  rfl

section Members

variable {member : String × JsonValue} {members : List (String × JsonValue)}

theorem ofMember_eq_ok_iff {setting : String × SettingValue} :
    ofMember member = .ok setting ↔ isAcceptable member ∧ member = toMember setting := by
  obtain ⟨key, json⟩ := member
  obtain ⟨settingKey, settingValue⟩ := setting
  simp only [ofMember, isAcceptable_iff, toMember, Prod.mk.injEq]
  split
  case h_1 noValue =>
    constructor
    · intro isOk
      cases isOk
    · rintro ⟨⟨isSetting, -⟩, -, isValue⟩
      have hasValue := SettingValue.ofJson?_eq_some_iff.mpr ⟨isSetting, isValue⟩
      cases noValue.symm.trans hasValue
  case h_2 value hasValue =>
    obtain ⟨isSetting, rfl⟩ := SettingValue.ofJson?_eq_some_iff.mp hasValue
    simp only [← SettingKind.objection?_eq_none_iff, ← Option.bind_eq_none_iff,
      SettingValue.toJson_inj]
    split
    case h_1 reason isRefused =>
      simp [isRefused]
    case h_2 isTaken =>
      simp [isTaken, isSetting]

theorem exists_ok_iff : (∃ setting, ofMember member = .ok setting) ↔ isAcceptable member := by
  constructor
  · rintro ⟨setting, isOk⟩
    exact (ofMember_eq_ok_iff.mp isOk).1
  · intro acceptable
    obtain ⟨value, isValue⟩ :=
      SettingValue.exists_toJson_of_isSetting (isAcceptable_iff.mp acceptable).1
    exact ⟨(member.1, value), ofMember_eq_ok_iff.mpr ⟨acceptable, Prod.ext rfl isValue⟩⟩

theorem not_isAcceptable_of_error
    {error : ConfigError}
    (isError : ofMember member = .error error) :
    ¬isAcceptable member := by
  intro acceptable
  obtain ⟨setting, isOk⟩ := exists_ok_iff.mpr acceptable
  cases isError.symm.trans isOk

/-- Members are taken together if each is acceptable; otherwise one of them is objected to. -/
theorem mapM_ofMember_cases (members : List (String × JsonValue)) :
    ((∀ member ∈ members, isAcceptable member) ∧
      ∃ values, members.mapM ofMember = .ok values ∧ members = values.map toMember) ∨
    ∃ member ∈ members, ∃ error,
      ofMember member = .error error ∧ members.mapM ofMember = .error error := by
  induction members with
  | nil =>
      exact .inl ⟨by simp, [], rfl, rfl⟩
  | cons member members inductionHypothesis =>
      rw [List.mapM_cons]
      cases first : ofMember member with
      | error error =>
          exact .inr ⟨member, List.mem_cons_self, error, first, rfl⟩
      | ok setting =>
          obtain ⟨acceptable, isMember⟩ := ofMember_eq_ok_iff.mp first
          obtain ⟨allAcceptable, values, rest, areMembers⟩ |
            ⟨refused, isIn, error, isRefused, rest⟩ := inductionHypothesis
          · refine .inl ⟨List.forall_mem_cons.mpr ⟨acceptable, allAcceptable⟩,
              setting :: values, ?_, ?_⟩
            · rw [rest]
              rfl
            · rw [List.map_cons, ← isMember, ← areMembers]
          · refine .inr ⟨refused, List.mem_cons_of_mem _ isIn, error, isRefused, ?_⟩
            rw [rest]
            rfl

end Members

end Settings

namespace Config

/-- What members of an object have made of a configuration. -/
structure Overridden
    (before after : Config)
    (members : List (String × JsonValue)) : Prop where
  /-- Each member, known or not, is stored with its value. -/
  stored : ∀ member ∈ members,
    (after.settings.get? member.1).map SettingValue.toJson = some member.2
  /-- The typed reader of a known setting gives the value of its member. -/
  typed : ∀ member ∈ members, ∀ kind, SettingKind.known.lookup member.1 = some kind →
    after.settings.readTyped? member.1 = some member.2
  /-- What no member names is as it was, also for the typed readers. -/
  others : ∀ key ∉ members.map Prod.fst,
    after.settings.get? key = before.settings.get? key ∧
      after.settings.readTyped? key = before.settings.readTyped? key
  tables : after.tables = before.tables

/-- Whether two configurations cannot be told apart by what is read of them. -/
structure SameValues (first second : Config) : Prop where
  stored : ∀ key, first.settings.get? key = second.settings.get? key
  typed : ∀ key, first.settings.readTyped? key = second.settings.readTyped? key
  tables : first.tables = second.tables

section Overridden

variable
  {before after other : Config}
  {members visited : List (String × JsonValue)}

theorem SameValues.of_stored
    (stored : ∀ key, after.settings.get? key = other.settings.get? key)
    (tables : after.tables = other.tables) :
    SameValues after other where
  stored
  typed key := Settings.readTyped?_congr (stored key)
  tables

/-- It does not matter in which order the members stand. -/
theorem Overridden.perm
    (overridden : Overridden before after visited)
    (sameMembers : visited.Perm members) :
    Overridden before after members where
  stored member isMember := overridden.stored member (sameMembers.mem_iff.mpr isMember)
  typed member isMember := overridden.typed member (sameMembers.mem_iff.mpr isMember)
  others key unnamed :=
    overridden.others key fun named => unnamed ((sameMembers.map _).mem_iff.mp named)
  tables := overridden.tables

/-- The members leave no choice of what becomes of a configuration. -/
theorem Overridden.sameValues
    (overridden : Overridden before after members)
    (otherOverridden : Overridden before other members) :
    SameValues after other := by
  refine .of_stored (fun key => ?_) (overridden.tables.trans otherOverridden.tables.symm)
  by_cases named : key ∈ members.map Prod.fst
  · obtain ⟨member, isMember, rfl⟩ := List.mem_map.mp named
    refine Option.map_injective (fun _ _ => SettingValue.toJson_inj.mp) ?_
    exact (overridden.stored member isMember).trans (otherOverridden.stored member isMember).symm
  · exact (overridden.others key named).1.trans (otherOverridden.others key named).1.symm

end Overridden

/-- Values for members with different keys are all stored. -/
theorem overridden_setAll
    {config : Config}
    {values : List (String × SettingValue)}
    (distinct : (values.map Prod.fst).Nodup)
    (acceptable : ∀ member ∈ values.map Settings.toMember, isAcceptable member) :
    Overridden config { config with settings := config.settings.setAll values }
      (values.map Settings.toMember) where
  stored := by
    rw [List.forall_mem_map]
    intro setting isSet
    rw [Settings.toMember, Settings.get?_setAll_of_mem distinct isSet, Option.map_some]
  typed := by
    rw [List.forall_mem_map] at acceptable ⊢
    intro setting isSet kind isKnown
    exact Settings.readTyped?_of_get? isKnown (Settings.get?_setAll_of_mem distinct isSet)
      ((isAcceptable_iff.mp (acceptable setting isSet)).2 kind isKnown)
  others key unnamed := by
    rw [Settings.map_fst_map_toMember] at unnamed
    have kept : (config.settings.setAll values).get? key = config.settings.get? key :=
      Settings.get?_setAll_of_not_mem unnamed
    exact ⟨kept, Settings.readTyped?_congr kept⟩
  tables := rfl

/-- Either each member is acceptable and all of them are set, or one is objected to and none is. -/
theorem overrideBy_cases
    (config : Config)
    {members : List (String × JsonValue)}
    (distinct : (members.map Prod.fst).Nodup) :
    ((∀ member ∈ members, isAcceptable member) ∧
      ∃ after, config.perform (overrideBy members) = (.ok (), after) ∧
        Overridden config after members) ∨
    ∃ member ∈ members, ∃ error,
      Settings.ofMember member = .error error ∧
        config.perform (overrideBy members) = (.error error, config) := by
  obtain ⟨acceptable, values, read, rfl⟩ | ⟨member, isMember, error, isError, read⟩ :=
    Settings.mapM_ofMember_cases members
  · refine .inl ⟨acceptable, _, ?_, overridden_setAll ?_ acceptable⟩
    · unfold perform overrideBy
      rw [read]
      rfl
    · rwa [Settings.map_fst_map_toMember] at distinct
  · refine .inr ⟨member, isMember, error, isError, ?_⟩
    unfold perform overrideBy
    rw [read]
    rfl

section Override

variable
  {config : Config}
  {text : List Char}
  {members visited : List (String × JsonValue)}

theorem perform_override (isRead : JsonValue.read? text = some (.object members)) :
    config.perform (override text) = config.perform (overrideBy members) := by
  unfold override
  rw [isRead]

/-- A text that is no object is refused, and nothing is set. -/
theorem perform_override_of_no_object
    (noObject : ∀ members, JsonValue.read? text ≠ some (.object members)) :
    config.perform (override text) = (.error .badJson, config) := by
  unfold override
  split
  · rename_i isRead
    exact absurd isRead (noObject _)
  · rfl

/-- Whether at most one of the members may not override a setting. -/
def AtMostOneInvalid (members : List (String × JsonValue)) : Prop :=
  ∀ first ∈ members, ∀ second ∈ members,
    ¬isAcceptable first → ¬isAcceptable second → first = second

/--
The order in which members are visited makes no difference to what is set.  It makes none
to the outcome either, unless there are several members that could be objected to.
-/
theorem override_perm
    (config : Config)
    (isRead : JsonValue.read? text = some (.object members))
    (sameMembers : visited.Perm members) :
    SameValues (config.perform (overrideBy visited)).2 (config.perform (override text)).2 ∧
      (AtMostOneInvalid members →
        (config.perform (overrideBy visited)).1 = (config.perform (override text)).1) := by
  have distinct := (JsonValue.keysInOrder_of_read? isRead).nodup
  have distinctVisited := ((sameMembers.map Prod.fst).nodup_iff).mpr distinct
  rw [perform_override isRead]
  obtain ⟨acceptable, after, result, overridden⟩ | ⟨refused, isMember, error, isError, result⟩ :=
    overrideBy_cases config distinct <;>
  obtain ⟨acceptableVisited, afterVisited, resultVisited, overriddenVisited⟩ |
    ⟨refusedVisited, isVisited, errorVisited, isErrorVisited, resultVisited⟩ :=
    overrideBy_cases config distinctVisited <;>
  rw [result, resultVisited]
  · exact ⟨(overriddenVisited.perm sameMembers).sameValues overridden, fun _ => rfl⟩
  · exact absurd (acceptable _ (sameMembers.mem_iff.mp isVisited))
      (Settings.not_isAcceptable_of_error isErrorVisited)
  · exact absurd (acceptableVisited _ (sameMembers.mem_iff.mpr isMember))
      (Settings.not_isAcceptable_of_error isError)
  · refine ⟨.of_stored (fun _ => rfl) rfl, fun atMostOne => ?_⟩
    have same : refusedVisited = refused :=
      atMostOne _ (sameMembers.mem_iff.mp isVisited) _ isMember
        (Settings.not_isAcceptable_of_error isErrorVisited)
        (Settings.not_isAcceptable_of_error isError)
    subst same
    cases isErrorVisited.symm.trans isError
    rfl

/--
A text is refused and leaves everything as it was, unless it is an object with acceptable
members only, which are then all set.
-/
theorem override_cases (config : Config) (text : List Char) :
    (∃ members, JsonValue.read? text = some (.object members) ∧
      (∀ member ∈ members, isAcceptable member) ∧
      ∃ after, config.perform (override text) = (.ok (), after) ∧
        Overridden config after members) ∨
    (¬∃ members, JsonValue.read? text = some (.object members) ∧
      ∀ member ∈ members, isAcceptable member) ∧
      ∃ error, config.perform (override text) = (.error error, config) := by
  by_cases isObject : ∃ members, JsonValue.read? text = some (.object members)
  case neg =>
    exact .inr ⟨fun ⟨members, isRead, _⟩ => isObject ⟨members, isRead⟩, .badJson,
      perform_override_of_no_object (not_exists.mp isObject)⟩
  case pos =>
    obtain ⟨members, isRead⟩ := isObject
    have distinct := (JsonValue.keysInOrder_of_read? isRead).nodup
    rw [perform_override isRead]
    obtain ⟨acceptable, applied⟩ | ⟨refused, isMember, error, isError, result⟩ :=
      overrideBy_cases config distinct
    · exact .inl ⟨members, isRead, acceptable, applied⟩
    · refine .inr ⟨?_, error, result⟩
      rintro ⟨others, isReadToo, acceptable⟩
      cases isRead.symm.trans isReadToo
      exact Settings.not_isAcceptable_of_error isError (acceptable _ isMember)

/--
Overriding settings by a text is all or nothing.  If it fails, the configuration is what it
was.  It succeeds if the text is an object and each member acceptable, and then every
member is stored, read back by the typed reader if its setting is known, and everything
else is what it was.  Whoever visits the members in another order gets the same settings,
and the same outcome if no more than one member is invalid.
-/
theorem override_all_or_nothing
    (config : Config)
    (text : List Char) :
    (∀ error, (config.perform (override text)).1 = .error error →
      (config.perform (override text)).2 = config) ∧
    ((config.perform (override text)).1 = .ok () ↔
      ∃ members, JsonValue.read? text = some (.object members) ∧
        ∀ member ∈ members, isAcceptable member) ∧
    ∀ members, JsonValue.read? text = some (.object members) →
      ((config.perform (override text)).1 = .ok () →
        Overridden config (config.perform (override text)).2 members) ∧
      ∀ visited : List (String × JsonValue), visited.Perm members →
        SameValues (config.perform (overrideBy visited)).2 (config.perform (override text)).2 ∧
        (AtMostOneInvalid members →
          (config.perform (overrideBy visited)).1 = (config.perform (override text)).1) := by
  obtain ⟨read, isRead, acceptable, after, result, overridden⟩ | ⟨unacceptable, refusal, result⟩ :=
    override_cases config text
  · refine ⟨?_, ?_, fun members isReadToo => ⟨fun _ => ?_, fun _ => override_perm config isReadToo⟩⟩
    · rw [result]
      intro error isError
      cases isError
    · rw [result]
      exact iff_of_true rfl ⟨read, isRead, acceptable⟩
    · cases isRead.symm.trans isReadToo
      rwa [result]
  · refine ⟨?_, ?_, fun members isRead => ⟨fun isOk => ?_, fun _ => override_perm config isRead⟩⟩
    · rw [result]
      exact fun _ _ => rfl
    · rw [result]
      exact iff_of_false (fun isOk => by cases isOk) unacceptable
    · rw [result] at isOk
      cases isOk

/--
The later one of two members of one name is set, whichever member is visited first; and a
width that is no number keeps the setting beside it from being overridden.
-/
theorem widths_overridden_or_refused :
    (∃ after, perform {} (override
        "\x7b\"tab_width\": 2, \"theme\": \"dark\", \"tab_width\": 8\x7d".toList) =
          (.ok (), after) ∧
      Overridden {} after [("tab_width", .integer 8), ("theme", .string "dark")] ∧
      SameValues
        (perform {} (overrideBy [("theme", .string "dark"), ("tab_width", .integer 8)])).2
        after) ∧
    ∃ error, perform {} (override
        "\x7b\"jump_lines\": 5, \"tab_width\": \"wide\"\x7d".toList) = (.error error, {}) ∧
      (perform {} (overrideBy [("tab_width", .string "wide"), ("jump_lines", .integer 5)])).1 =
        .error error := by
  constructor
  · obtain ⟨-, isOk_iff, ofObject⟩ := override_all_or_nothing {}
      "\x7b\"tab_width\": 2, \"theme\": \"dark\", \"tab_width\": 8\x7d".toList
    obtain ⟨overridden, inAnyOrder⟩ :=
      ofObject [("tab_width", .integer 8), ("theme", .string "dark")] rfl
    have isOk := isOk_iff.mpr ⟨_, rfl, by decide⟩
    exact ⟨_, Prod.ext isOk rfl, overridden isOk, (inAnyOrder _ (.swap _ _ _)).1⟩
  · obtain ⟨kept, -, ofObject⟩ := override_all_or_nothing {}
      "\x7b\"jump_lines\": 5, \"tab_width\": \"wide\"\x7d".toList
    have atMostOne : AtMostOneInvalid
        [("jump_lines", .integer 5), ("tab_width", .string "wide")] := by
      have numberAcceptable : isAcceptable ("jump_lines", .integer 5) := by decide
      simp [AtMostOneInvalid, numberAcceptable]
    exact ⟨_, Prod.ext rfl (kept _ rfl), ((ofObject _ rfl).2 _ (.swap _ _ _)).2 atMostOne⟩

end Override

end Config

end ChordEditor
