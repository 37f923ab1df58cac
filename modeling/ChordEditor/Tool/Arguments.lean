namespace ChordEditor

/-!
# Arguments of the command line tool

The tool has three commands.  Options can stand before and behind the command, and
`--` makes all that follows it positional.  A value given behind the command wins over
one given before it.

Arguments are read one by one.  An option whose value comes as the next argument, and
a positional argument too, is *pending* until the next thing is read; only then it is
checked and kept.
-/

/-- What is wrong with the arguments, or what they ask to be shown. -/
inductive UsageError where
  | showHelp
  | showVersion
  /-- There are no arguments at all. -/
  | showHelpOnMissing
  | missingCommand
  | missingArgument
  | unknownCommand
  | unknownArgument
  /-- An option was given twice. -/
  | conflict
  /-- An option has no value, or an empty one where none is allowed. -/
  | missingValue
  /-- A switch was given a value. -/
  | valueNotTaken
  deriving Repr, DecidableEq

/-- How the tool is used. -/
def usage : String :=
  "\n".intercalate
    [ "Usage: chordeditor [OPTIONS] <COMMAND>",
      "",
      "Commands:",
      "  replay <FILE> --keys <KEYS>  Replay keys over a file and show what comes of it",
      "  highlight <FILE>             Show how every line of a file is highlighted",
      "  goto <FILE> <NAME>           Show where a name is defined",
      "",
      "Options:",
      "  -g, --grammar <GRAMMAR>  Grammar of the file (python, blink, tcl or an alias)",
      "  -c, --config <CONFIG>    JSON file with settings",
      "      --json               Print reports as JSON",
      "  -v, --verbose            Log more",
      "  -h, --help               Print help",
      "  -V, --version            Print version" ]

namespace UsageError

/-- What is shown, apart from how the tool is used. -/
def message : UsageError → String
  | .showHelp | .showHelpOnMissing => usage
  | .showVersion => "chordeditor 0.3.0"
  | .missingCommand => "error: a command is required"
  | .missingArgument => "error: a required argument was not provided"
  | .unknownCommand => "error: unrecognized command"
  | .unknownArgument => "error: unexpected argument"
  | .conflict => "error: an option cannot be used multiple times"
  | .missingValue => "error: a value is required"
  | .valueNotTaken => "error: an option takes no value"

/-- Whether what is shown was asked for. -/
def isAnswer : UsageError → Bool
  | .showHelp | .showVersion => true
  | _ => false

end UsageError

/-- What the tool can do. -/
inductive ToolCommand where
  | replay (file keys : String)
  | highlight (file : String)
  | goto (file name : String)
  deriving Repr, DecidableEq

/-- The file that a command is about. -/
def ToolCommand.file : ToolCommand → String
  | .replay file _ => file
  | .highlight file => file
  | .goto file _ => file

/-- What the arguments ask for. -/
structure Invocation where
  grammar : Option String
  config : Option String
  json : Bool
  verbose : Bool
  command : ToolCommand
  deriving Repr, DecidableEq

/-- The options of the tool. -/
inductive ToolOption where
  | grammar
  | config
  | json
  | verbose
  | help
  | version
  | keys
  deriving Repr, DecidableEq

namespace ToolOption

/-- The letter of an option, if it has one. -/
def letter? : ToolOption → Option Char
  | .grammar => some 'g'
  | .config => some 'c'
  | .json => none
  | .verbose => some 'v'
  | .help => some 'h'
  | .version => some 'V'
  | .keys => some 'k'

/-- The name of an option. -/
def name : ToolOption → String
  | .grammar => "grammar"
  | .config => "config"
  | .json => "json"
  | .verbose => "verbose"
  | .help => "help"
  | .version => "version"
  | .keys => "keys"

/-- Whether an option takes a value. -/
def takesValue : ToolOption → Bool
  | .grammar | .config | .keys => true
  | .json | .verbose | .help | .version => false

end ToolOption

/-- Where arguments are being read: before the command, or behind it. -/
inductive ToolLevel where
  | top
  | replay
  | highlight
  | goto
  deriving Repr, DecidableEq

namespace ToolLevel

/-- The options known at a level. -/
def options : ToolLevel → List ToolOption
  | .top => [.grammar, .config, .json, .verbose, .help, .version]
  | .replay => [.keys, .grammar, .config, .json, .verbose, .help]
  | .highlight | .goto => [.grammar, .config, .json, .verbose, .help]

/-- How many positional arguments there are at a level. -/
def positionalCount : ToolLevel → Nat
  | .top => 0
  | .replay | .highlight => 1
  | .goto => 2

/-- The level behind the name of a command. -/
def ofName? : String → Option ToolLevel
  | "replay" => some .replay
  | "highlight" => some .highlight
  | "goto" => some .goto
  | _ => none

end ToolLevel

/-- What a value is given for. -/
inductive ValueSlot where
  | option (option : ToolOption)
  | positional (index : Nat)
  deriving Repr, DecidableEq

/-- What has been read at one level. -/
structure ArgumentReader where
  level : ToolLevel
  /-- The values kept so far, the last one first. -/
  values : List (ValueSlot × String) := []
  /-- The switches set so far. -/
  switches : List ToolOption := []
  /-- What is still to be checked and kept, with its value if that has been read. -/
  pending : Option (ValueSlot × Option String) := none
  positionals : Nat := 0
  /-- Whether all that follows is positional. -/
  onlyPositionals : Bool := false
  deriving Repr, DecidableEq

namespace ArgumentReader

/-- Whether an empty value is refused: the paths of files must not be empty. -/
def refusesEmpty : ValueSlot → Bool
  | .option .config => true
  | .positional index => index == 0
  | _ => false

/-- Check a value and keep it. -/
def keep (reader : ArgumentReader) (slot : ValueSlot) (value : String) :
    Except UsageError ArgumentReader :=
  if (reader.values.lookup slot).isSome then
    .error .conflict
  else if value.isEmpty && refusesEmpty slot then
    .error .missingValue
  else
    .ok { reader with values := (slot, value) :: reader.values, pending := none }

/-- Check and keep what is pending. -/
def resolve (reader : ArgumentReader) : Except UsageError ArgumentReader :=
  match reader.pending with
  | none => .ok reader
  | some (_, none) => .error .missingValue
  | some (slot, some value) => reader.keep slot value

/-- Set a switch. -/
def setSwitch (reader : ArgumentReader) (option : ToolOption) :
    Except UsageError ArgumentReader := do
  let reader ← reader.resolve
  match option with
  | .help => .error .showHelp
  | .version => .error .showVersion
  | _ =>
      if reader.switches.contains option then
        .error .conflict
      else
        .ok { reader with switches := option :: reader.switches }

/-- Begin an option that takes a value; the value may be attached to it. -/
def beginOption (reader : ArgumentReader) (option : ToolOption) (attached : Option String) :
    Except UsageError ArgumentReader := do
  let reader ← reader.resolve
  match attached with
  | some value => reader.keep (.option option) value
  | none => .ok { reader with pending := some (.option option, none) }

/-- Read an option by its name, with a value behind an equals sign if there is one. -/
def readNamed (reader : ArgumentReader) (text : List Char) : Except UsageError ArgumentReader :=
  let name := String.ofList (text.takeWhile (· != '='))
  let attached :=
    match text.dropWhile (· != '=') with
    | [] => none
    | _ :: value => some (String.ofList value)
  match reader.level.options.find? fun option => option.name == name, attached with
  | none, _ => .error .unknownArgument
  | some option, attached =>
      if option.takesValue then
        reader.beginOption option attached
      else if attached.isSome then
        .error .valueNotTaken
      else
        reader.setSwitch option

/-- The value behind the letter of an option; an equals sign may stand between. -/
def attachedValue? (text : List Char) : Option String :=
  match text with
  | [] => none
  | '=' :: value => some (String.ofList value)
  | value => some (String.ofList value)

/-- Read options by their letters; the rest behind one that takes a value is the value. -/
def readLetters (reader : ArgumentReader) : List Char → Except UsageError ArgumentReader
  | [] => .ok reader
  | letter :: rest =>
      match reader.level.options.find? fun option => option.letter? == some letter with
      | none => .error .unknownArgument
      | some option =>
          if option.takesValue then
            reader.beginOption option (attachedValue? rest)
          else do
            let reader ← reader.setSwitch option
            reader.readLetters rest

/-- Take a positional argument. -/
def readPositional (reader : ArgumentReader) (value : String) :
    Except UsageError ArgumentReader :=
  if reader.positionals < reader.level.positionalCount then do
    let reader ← reader.resolve
    .ok
      { reader with
        pending := some (.positional reader.positionals, some value)
        positionals := reader.positionals + 1 }
  else if reader.level = .top ∧
      !(reader.onlyPositionals && ((ToolLevel.ofName? value).isSome || value == "help")) then
    .error .unknownCommand
  else
    .error .unknownArgument

/-- The option that waits for the next argument as its value. -/
def waiting? (reader : ArgumentReader) : Option ValueSlot :=
  match reader.pending with
  | some (slot, none) => some slot
  | _ => none

/-- Read an argument that is not the name of a command. -/
def read (reader : ArgumentReader) (argument : String) : Except UsageError ArgumentReader :=
  if reader.onlyPositionals then
    reader.readPositional argument
  else
    match argument.toList with
    | ['-', '-'] => .ok { reader with onlyPositionals := true }
    | '-' :: '-' :: text => reader.readNamed text
    | '-' :: c :: text => reader.readLetters (c :: text)
    | _ =>
        match reader.waiting? with
        | some slot => .ok { reader with pending := some (slot, some argument) }
        | none => reader.readPositional argument

/-- Whether the next argument may name a command. -/
def admitsCommand (reader : ArgumentReader) : Bool :=
  reader.level == .top && !reader.onlyPositionals && reader.waiting?.isNone

/-- Read arguments at a level until the name of a command, which ends the level. -/
def readUntilCommand (reader : ArgumentReader) :
    List String → Except UsageError (ArgumentReader × Option (String × List String))
  | [] => .ok (reader, none)
  | argument :: rest =>
      if reader.admitsCommand &&
          ((ToolLevel.ofName? argument).isSome || argument == "help") then
        .ok (reader, some (argument, rest))
      else do
        let reader ← reader.read argument
        reader.readUntilCommand rest

/-- The value of an option. -/
def option? (reader : ArgumentReader) (option : ToolOption) : Option String :=
  reader.values.lookup (.option option)

/-- A positional argument that has to be there. -/
def positional (reader : ArgumentReader) (index : Nat) : Except UsageError String :=
  match reader.values.lookup (.positional index) with
  | some value => .ok value
  | none => .error .missingArgument

end ArgumentReader

namespace Invocation

/-- The command that the arguments behind its name ask for. -/
def commandOf (reader : ArgumentReader) : Except UsageError ToolCommand := do
  match reader.level with
  | .top => .error .missingCommand
  | .replay =>
      let file ← reader.positional 0
      match reader.option? .keys with
      | some keys => .ok (.replay file keys)
      | none => .error .missingArgument
  | .highlight =>
      let file ← reader.positional 0
      .ok (.highlight file)
  | .goto =>
      let file ← reader.positional 0
      let name ← reader.positional 1
      .ok (.goto file name)

/-- What asking for help on some commands comes to. -/
def helpOn : List String → UsageError
  | [] => .showHelp
  | [name] =>
      if (ToolLevel.ofName? name).isSome || name == "help" then .showHelp else .unknownCommand
  | _ => .unknownCommand

/-- Read the arguments of a command and join them with what stood before it. -/
def readCommand
    (top : ArgumentReader)
    (level : ToolLevel)
    (arguments : List String) : Except UsageError Invocation := do
  let (reader, _) ← ArgumentReader.readUntilCommand { level } arguments
  let reader ← reader.resolve
  let command ← commandOf reader
  let top ← top.resolve
  return {
    grammar := reader.option? .grammar <|> top.option? .grammar
    config := reader.option? .config <|> top.option? .config
    json := reader.switches.contains .json || top.switches.contains .json
    verbose := reader.switches.contains .verbose || top.switches.contains .verbose
    command }

/-- Read the arguments of the tool. -/
def read (arguments : List String) : Except UsageError Invocation := do
  let (top, command) ← ArgumentReader.readUntilCommand { level := .top } arguments
  match command with
  | some (name, rest) =>
      match ToolLevel.ofName? name with
      | some level => readCommand top level rest
      | none => .error (helpOn rest)
  | none =>
      let top ← top.resolve
      if top.values.isEmpty && top.switches.isEmpty then
        .error .showHelpOnMissing
      else
        .error .missingCommand

end Invocation

end ChordEditor
