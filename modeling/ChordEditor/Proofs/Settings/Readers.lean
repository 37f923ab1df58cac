import ChordEditor.Settings.Config

namespace ChordEditor

/-!
# What the readers of settings give

A setting is read as it was set last, whatever else has been set (`get?_set`).  Each known
setting has a typed reader with a default for values of another type; one that its kind
takes is read back as it is (`readTyped?_of_get?`).
-/

namespace SettingValue

/-- The JSON value that stands for a setting's value. -/
def toJson : SettingValue → JsonValue
  | .bool value => .bool value
  | .int value => .integer value
  | .string text => .string text

theorem toJson_inj {first second : SettingValue} :
    first.toJson = second.toJson ↔ first = second := by
  cases first <;> cases second <;> simp [toJson]

end SettingValue

namespace SettingKind

/-- Whether a known setting may have a JSON value, if settings may have it at all. -/
def takes : SettingKind → JsonValue → Bool
  | .bool, .bool _ => true
  | .count, .integer value => 0 ≤ value
  | .char, .string shown => shown.toList.length = 1
  | .text, .string _ => true
  | _, _ => false

theorem objection?_eq_none_iff {kind : SettingKind} {value : SettingValue} :
    kind.objection? value = none ↔ kind.takes value.toJson := by
  cases kind <;> cases value <;> simp [objection?, takes, SettingValue.toJson]

end SettingKind

namespace Settings

section Stored

theorem get?_set
    (settings : Settings)
    (key other : String)
    (value : SettingValue) :
    (settings.set key value).get? other =
      if other = key then some value else settings.get? other := by
  unfold get? set
  split
  case isTrue same =>
    simp [same]
  case isFalse ne =>
    rw [List.lookup_cons, beq_eq_false_iff_ne.mpr ne]
    dsimp only
    induction settings.entries with
    | nil =>
        rfl
    | cons entry entries inductionHypothesis =>
        obtain ⟨named, stored⟩ := entry
        by_cases replaced : named = key
        · simpa [replaced, List.lookup_cons, beq_eq_false_iff_ne.mpr ne] using inductionHypothesis
        · simp [replaced, List.lookup_cons, inductionHypothesis]

variable
  {settings : Settings}
  {values : List (String × SettingValue)}
  {key : String}

/-- A setting that is not named keeps its value. -/
theorem get?_setAll_of_not_mem (unnamed : key ∉ values.map Prod.fst) :
    (settings.setAll values).get? key = settings.get? key := by
  induction values generalizing settings with
  | nil =>
      rfl
  | cons entry values inductionHypothesis =>
      simp only [List.map_cons, List.mem_cons, not_or] at unnamed
      calc
        (settings.setAll (entry :: values)).get? key
            = (settings.set entry.1 entry.2).get? key := inductionHypothesis unnamed.2
        _ = settings.get? key := by rw [get?_set, if_neg unnamed.1]

/-- A setting that is named once has the given value. -/
theorem get?_setAll_of_mem
    {value : SettingValue}
    (distinct : (values.map Prod.fst).Nodup)
    (named : (key, value) ∈ values) :
    (settings.setAll values).get? key = some value := by
  induction values generalizing settings with
  | nil =>
      cases named
  | cons entry values inductionHypothesis =>
      obtain ⟨isNew, distinct⟩ := List.nodup_cons.mp distinct
      obtain rfl | namedLater := List.mem_cons.mp named
      · calc
          (settings.setAll ((key, value) :: values)).get? key
              = (settings.set key value).get? key := get?_setAll_of_not_mem isNew
          _ = some value := by rw [get?_set, if_pos rfl]
      · exact inductionHypothesis distinct namedLater

end Stored

section Typed

theorem mem_of_lookup
    {entries : List (String × α)}
    {key : String}
    {entry : α}
    (found : entries.lookup key = some entry) :
    (key, entry) ∈ entries := by
  obtain ⟨before, after, rfl, -⟩ := List.lookup_eq_some_iff.mp found
  exact List.mem_append_right before List.mem_cons_self

/-- What the typed readers of the known settings give, as JSON. -/
def typedReaders : List (String × (Settings → JsonValue)) :=
  [ ("tab_width", fun settings => .integer settings.tabWidth),
    ("leader_key", fun settings => .string (String.ofList [settings.leaderKey])),
    ("leader_timeout_ms", fun settings => .integer settings.leaderTimeout),
    ("chord_timeout_ms", fun settings => .integer settings.chordTimeout),
    ("redeliver_unmatched", fun settings => .bool settings.redeliverUnmatched),
    ("jump_lines", fun settings => .integer settings.jumpLines),
    ("scroll_lines", fun settings => .integer settings.scrollLines),
    ("view_height", fun settings => .integer settings.viewHeight),
    ("grammar", fun settings => .string settings.grammar) ]

/-- What the typed reader of a setting gives, if it has one. -/
def readTyped? (settings : Settings) (key : String) : Option JsonValue :=
  (typedReaders.lookup key).map fun read => read settings

variable
  {settings : Settings}
  {key : String}
  {value : SettingValue}

theorem integer_count_of_get?
    (default : Nat)
    (stored : settings.get? key = some value)
    (takes : SettingKind.count.takes value.toJson) :
    .integer (settings.count key default) = value.toJson := by
  cases value with
  | bool | string =>
      cases takes
  | int given =>
      obtain ⟨number, rfl⟩ := Int.eq_ofNat_of_zero_le (of_decide_eq_true takes)
      simp [count, int?, stored, SettingValue.toJson]

theorem bool_of_get?
    (default : Bool)
    (stored : settings.get? key = some value)
    (takes : SettingKind.bool.takes value.toJson) :
    .bool ((settings.bool? key).getD default) = value.toJson := by
  cases value with
  | int | string =>
      cases takes
  | bool given =>
      simp [bool?, stored, SettingValue.toJson]

theorem string_of_get?
    (default : String)
    (stored : settings.get? key = some value)
    (takes : SettingKind.text.takes value.toJson) :
    .string ((settings.string? key).getD default) = value.toJson := by
  cases value with
  | bool | int =>
      cases takes
  | string given =>
      simp [string?, stored, SettingValue.toJson]

theorem string_leaderKey_of_get?
    (stored : settings.get? "leader_key" = some value)
    (takes : SettingKind.char.takes value.toJson) :
    .string (String.ofList [settings.leaderKey]) = value.toJson := by
  cases value with
  | bool | int =>
      cases takes
  | string given =>
      obtain ⟨c, isGiven⟩ := List.length_eq_one_iff.mp (of_decide_eq_true takes)
      simp [leaderKey, string?, stored, isGiven, SettingValue.toJson, ← String.toList_inj]

/-- The typed reader of a known setting gives the stored value, if it is of the right type. -/
theorem readTyped?_of_get?
    {kind : SettingKind}
    (isKnown : SettingKind.known.lookup key = some kind)
    (stored : settings.get? key = some value)
    (takes : kind.takes value.toJson) :
    settings.readTyped? key = some value.toJson := by
  have isEntry := mem_of_lookup isKnown
  clear isKnown
  simp only [SettingKind.known, List.mem_cons, Prod.mk.injEq, List.not_mem_nil, or_false] at isEntry
  obtain ⟨rfl, rfl⟩ | ⟨rfl, rfl⟩ | ⟨rfl, rfl⟩ | ⟨rfl, rfl⟩ | ⟨rfl, rfl⟩ | ⟨rfl, rfl⟩ |
    ⟨rfl, rfl⟩ | ⟨rfl, rfl⟩ | ⟨rfl, rfl⟩ := isEntry
  -- In the order of `known`: the readers of one kind differ in name and default alone.
  · exact congrArg some (integer_count_of_get? _ stored takes)
  · exact congrArg some (string_leaderKey_of_get? stored takes)
  · exact congrArg some (integer_count_of_get? _ stored takes)
  · exact congrArg some (integer_count_of_get? _ stored takes)
  · exact congrArg some (bool_of_get? _ stored takes)
  · exact congrArg some (integer_count_of_get? _ stored takes)
  · exact congrArg some (integer_count_of_get? _ stored takes)
  · exact congrArg some (integer_count_of_get? _ stored takes)
  · exact congrArg some (string_of_get? _ stored takes)

/-- A typed reader looks at no setting but its own. -/
theorem readTyped?_congr
    {other : Settings}
    (same : settings.get? key = other.get? key) :
    settings.readTyped? key = other.readTyped? key := by
  unfold readTyped?
  cases found : typedReaders.lookup key with
  | none =>
      rfl
  | some read =>
      have isEntry := mem_of_lookup found
      clear found
      simp only [typedReaders, List.mem_cons, Prod.mk.injEq, List.not_mem_nil, or_false] at isEntry
      obtain ⟨rfl, rfl⟩ | ⟨rfl, rfl⟩ | ⟨rfl, rfl⟩ | ⟨rfl, rfl⟩ | ⟨rfl, rfl⟩ | ⟨rfl, rfl⟩ |
        ⟨rfl, rfl⟩ | ⟨rfl, rfl⟩ | ⟨rfl, rfl⟩ := isEntry <;>
      simp [tabWidth, leaderKey, leaderTimeout, chordTimeout, redeliverUnmatched, jumpLines,
        scrollLines, viewHeight, grammar, count, int?, bool?, string?, same]

end Typed

end Settings

end ChordEditor
