import ChordEditor.Settings.Bindings
import ChordEditor.Settings.Values
import ChordEditor.Json.Reader

namespace ChordEditor

/-!
# Configurations

A configuration holds the key tables and the settings that a session begins with.
Settings can be overridden by the members of a JSON object.  Names that the editor does
not know are kept; known ones must have a value of the right type.
-/

/-- Why settings cannot be loaded. -/
inductive ConfigError where
  /-- The text is not a JSON object. -/
  | badJson
  /-- The file cannot be read. -/
  | unreadable
  | invalidValue (key reason : String)
  | badKey (error : KeyError)
  deriving Repr, DecidableEq

namespace ConfigError

/-- The wording of an error in a value. -/
def message : ConfigError → String
  | .badJson => "config is not valid JSON"
  | .unreadable => "cannot read config"
  | .invalidValue key reason => "invalid value for '" ++ key ++ "': " ++ reason
  | .badKey error => error.message

end ConfigError

/-- What the value of a known setting has to be. -/
inductive SettingKind where
  | bool
  | count
  | char
  | text
  deriving Repr, DecidableEq

namespace SettingKind

/-- The known settings. -/
def known : List (String × SettingKind) :=
  [ ("tab_width", .count),
    ("leader_key", .char),
    ("leader_timeout_ms", .count),
    ("chord_timeout_ms", .count),
    ("redeliver_unmatched", .bool),
    ("jump_lines", .count),
    ("scroll_lines", .count),
    ("view_height", .count),
    ("grammar", .text) ]

/-- What is wrong with a value, if anything is. -/
def objection? : SettingKind → SettingValue → Option String
  | .bool, .bool _ => none
  | .bool, _ => some "expected true or false"
  | .count, .int value => if value < 0 then some "must not be negative" else none
  | .count, _ => some "expected a whole number"
  | .char, .string shown =>
      if shown.toList.length = 1 then none else some "expected a single character"
  | .char, _ => some "expected a single character"
  | .text, .string _ => none
  | .text, _ => some "expected a string"

end SettingKind

namespace Settings

/-- The setting that a member of an object stands for. -/
def ofMember (member : String × JsonValue) : Except ConfigError (String × SettingValue) :=
  let (key, json) := member
  match SettingValue.ofJson? json with
  | none => .error (.invalidValue key ("unsupported value " ++ json.compact))
  | some value =>
      match (SettingKind.known.lookup key).bind fun kind => kind.objection? value with
      | some reason => .error (.invalidValue key reason)
      | none => .ok (key, value)

end Settings

/-- Key tables and settings. -/
structure Config where
  tables : KeyTables := {}
  settings : Settings := {}

namespace Config

/-- The settings that a configuration begins with. -/
def defaultSettings : List (String × SettingValue) :=
  [ ("tab_width", .int 4),
    ("leader_key", .string ","),
    ("leader_timeout_ms", .int 1000),
    ("chord_timeout_ms", .int 0),
    ("redeliver_unmatched", .bool true),
    ("jump_lines", .int 10),
    ("scroll_lines", .int 1),
    ("view_height", .int 40),
    ("grammar", .string "python") ]

/-- The configuration with the default bindings and settings. -/
def withDefaults : Except ConfigError Config :=
  match KeyTables.defaults with
  | .ok tables => .ok { tables, settings := ({} : Settings).setAll defaultSettings }
  | .error error => .error (.badKey error)

/-- Set one setting. -/
def set (config : Config) (key : String) (value : SettingValue) : Config :=
  { config with settings := config.settings.set key value }

/-- A change of the configuration that can fail; what it has set by then stays set. -/
abbrev Change := ExceptT ConfigError (StateM Config) Unit

/--
Override settings by members of an object, one visited after the other.  Nothing is set
before every value has been found to be valid.
-/
def overrideBy (members : List (String × JsonValue)) : Change := do
  let values ← MonadExcept.ofExcept (members.mapM Settings.ofMember)
  modify fun config => { config with settings := config.settings.setAll values }

/-- Override settings by those of a JSON object. -/
def override (text : List Char) : Change :=
  match JsonValue.read? text with
  | some (.object members) => overrideBy members
  | _ => throw .badJson

/-- What a change comes to, and the configuration that it leaves. -/
def perform (config : Config) (change : Change) : Except ConfigError Unit × Config :=
  change.run.run config

/-- The configuration with settings overridden by those of a JSON object. -/
def applyJson (config : Config) (text : List Char) : Except ConfigError Config :=
  let (outcome, after) := config.perform (override text)
  outcome.map fun _ => after

/-- Bind a written chord. -/
def bind
    (config : Config)
    (name : TableName)
    (written : String)
    (action : Action) : Except ConfigError Config :=
  match Chord.read written with
  | .ok chord => .ok { config with tables := config.tables.bind name chord action }
  | .error error => .error (.badKey error)

end Config

end ChordEditor
