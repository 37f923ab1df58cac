import ChordEditor.Definition.Python.Tree
import ChordEditor.Report.Definition
import ChordEditor.Report.Highlight
import ChordEditor.Tool.Arguments

namespace ChordEditor

/-!
# Running the command line tool

The tool reads files through a function that gives the text of a file, or the reason
why it cannot be read.
-/

/-- Gives the text of a file, or the reason why it cannot be read. -/
abbrev FileReader := String → Except String (List Char)

/-- Why the tool fails. -/
inductive ToolError where
  | config (error : ConfigError)
  | grammars (error : GrammarError)
  | report (error : ReportError)
  deriving Repr, DecidableEq

namespace ToolError

/-- The wording of an error. -/
def message : ToolError → String
  | .config error => "cannot apply configuration: " ++ error.message
  | .grammars error => error.message
  | .report error => error.message

end ToolError

/-- The built-in grammars, and the reader of modules for their parser. -/
def toolGrammars : Except GrammarError GrammarRegistry := do
  let grammars ← GrammarRegistry.builtin
  return { grammars with parser := Python.parse }

namespace Invocation

/-- What is logged by default. -/
def logFilter (invocation : Invocation) : String :=
  if invocation.verbose then "scripter=debug" else "scripter=info"

/-- The configuration with the overrides that the arguments ask for. -/
def configure
    (invocation : Invocation)
    (files : FileReader)
    (config : Config) : Except ConfigError Config := do
  let overridden ←
    match invocation.config with
    | none => pure config
    | some path =>
        match files path with
        | .ok text => config.applyJson text
        | .error _ => throw .unreadable
  match invocation.grammar with
  | some name => return overridden.set "grammar" (.string name)
  | none => return overridden

/-- Choose between the two forms of a report. -/
def rendered (json : Bool) (text : String) (value : JsonValue) : String :=
  if json then value.pretty else text

/-- The text of the file that a report is about. -/
def source (files : FileReader) (path : String) : Except ReportError (List Char) :=
  match files path with
  | .ok text => .ok text
  | .error reason => .error (.cannotRead path reason)

/-- Make the report that the arguments ask for. -/
def report
    (invocation : Invocation)
    (files : FileReader)
    (config : Config)
    (grammars : GrammarRegistry) : Except ReportError String := do
  match invocation.command with
  | .replay file keys =>
      let text ← source files file
      let report ← ReplayReport.run config grammars text keys
      return rendered invocation.json report.render report.toJson
  | .highlight file =>
      let text ← source files file
      let report ← HighlightReport.run config grammars text
      return rendered invocation.json report.render report.toJson
  | .goto file name =>
      let text ← source files file
      let report ← DefinitionReport.run config grammars text name.toList
      return rendered invocation.json report.render report.toJson

/-- Run the tool with a configuration to begin with. -/
def run
    (invocation : Invocation)
    (files : FileReader)
    (config : Config)
    (grammars : GrammarRegistry) : Except ToolError String :=
  match invocation.configure files config with
  | .error error => .error (.config error)
  | .ok config =>
      match invocation.report files config grammars with
      | .error error => .error (.report error)
      | .ok output => .ok output

/-- Run the tool with the default configuration and what comes with it. -/
def runWithDefaults (invocation : Invocation) (files : FileReader) : Except ToolError String :=
  match Config.withDefaults, toolGrammars with
  | .ok config, .ok grammars => invocation.run files config grammars
  | .error error, _ => .error (.config error)
  | _, .error error => .error (.grammars error)

end Invocation

end ChordEditor
