import ChordEditor.Dispatcher
import ChordEditor.Json.Value

namespace ChordEditor

/-!
# Settings

Settings are kept by name.  Any name can be set; the editor reads the known ones, each
through a function of its own that falls back to a default when the stored value is
missing or of another type.
-/

/-- The values that settings have. -/
inductive SettingValue where
  | bool (value : Bool)
  | int (value : Int)
  | string (text : String)
  deriving Repr, DecidableEq

namespace SettingValue

/-- The setting that a JSON value stands for, if it is of a type that settings have. -/
def ofJson? : JsonValue → Option SettingValue
  | .bool value => some (.bool value)
  | .integer value =>
      let limit : Int := Nat.pow 2 63
      if -limit ≤ value ∧ value < limit then some (.int value) else none
  | .string text => some (.string text)
  | _ => none

end SettingValue

/-- Settings by name, each name once. -/
structure Settings where
  entries : List (String × SettingValue) := []
  deriving Repr, DecidableEq

namespace Settings

/-- Set a value, in place of an older one. -/
def set (settings : Settings) (key : String) (value : SettingValue) : Settings :=
  ⟨(key, value) :: settings.entries.filter fun entry => entry.1 != key⟩

/-- Set several values, one after the other. -/
def setAll (settings : Settings) (values : List (String × SettingValue)) : Settings :=
  values.foldl (fun settings entry => settings.set entry.1 entry.2) settings

/-- The value of a setting. -/
def get? (settings : Settings) (key : String) : Option SettingValue :=
  settings.entries.lookup key

/-- The value of a setting that is true or false. -/
def bool? (settings : Settings) (key : String) : Option Bool :=
  match settings.get? key with
  | some (.bool value) => some value
  | _ => none

/-- The value of a setting that is a whole number. -/
def int? (settings : Settings) (key : String) : Option Int :=
  match settings.get? key with
  | some (.int value) => some value
  | _ => none

/-- The value of a setting that is a text. -/
def string? (settings : Settings) (key : String) : Option String :=
  match settings.get? key with
  | some (.string text) => some text
  | _ => none

/-- The value of a setting that is a whole number and not negative. -/
def count (settings : Settings) (key : String) (default : Nat) : Nat :=
  match settings.int? key with
  | some (.ofNat value) => value
  | _ => default

/-- The number of stored settings. -/
def size (settings : Settings) : Nat :=
  settings.entries.length

/-- Columns of a tab, and spaces of an indentation unit. -/
def tabWidth (settings : Settings) : Nat :=
  settings.count "tab_width" 4

/-- The leader key: the first character of its setting. -/
def leaderKey (settings : Settings) : Char :=
  match (settings.string? "leader_key").map String.toList with
  | some (c :: _) => c
  | _ => ','

/-- Milliseconds that the leader stays armed. -/
def leaderTimeout (settings : Settings) : Nat :=
  settings.count "leader_timeout_ms" 1000

/-- Milliseconds after which matched keys are dropped. -/
def chordTimeout (settings : Settings) : Nat :=
  settings.count "chord_timeout_ms" 0

/-- Whether a press that breaks a chord off is tried again. -/
def redeliverUnmatched (settings : Settings) : Bool :=
  (settings.bool? "redeliver_unmatched").getD true

/-- Lines of one jump up or down. -/
def jumpLines (settings : Settings) : Nat :=
  settings.count "jump_lines" 10

/-- Lines that one step scrolls. -/
def scrollLines (settings : Settings) : Nat :=
  settings.count "scroll_lines" 1

/-- Lines in view. -/
def viewHeight (settings : Settings) : Nat :=
  settings.count "view_height" 40

/-- The name of the grammar to begin with. -/
def grammar (settings : Settings) : String :=
  (settings.string? "grammar").getD "python"

/-- What the dispatcher takes from the settings. -/
def dispatcher (settings : Settings) : DispatcherSettings :=
  { leader := settings.leaderKey
    leaderTimeout := settings.leaderTimeout
    chordTimeout := settings.chordTimeout
    redeliver := settings.redeliverUnmatched }

end Settings

end ChordEditor
