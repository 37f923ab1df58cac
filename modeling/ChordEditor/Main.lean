import ChordEditor.Tool.Run
import ChordEditor.Tool.Arguments

/-!
# The command line tool

Reads the arguments and the files they name, runs the tool and prints what it answers.
-/

namespace ChordEditor

/-- The text of a file, or the reason why it cannot be read. -/
def readText (path : String) : IO (Except String (List Char)) := do
  try
    let text ← IO.FS.readFile path
    return .ok text.toList
  catch error =>
    return .error (toString error)

/-- Read the files that the arguments name, the configuration's among them. -/
def readFiles (invocation : Invocation) : IO FileReader := do
  let paths := invocation.command.file :: invocation.config.toList
  let texts ← paths.mapM fun path => return (path, ← readText path)
  return fun path => (texts.lookup path).getD (.error "not read")

/-- Run the tool; the answer is its exit code. -/
def runTool (arguments : List String) : IO UInt32 := do
  match Invocation.read arguments with
  | .error error =>
      if error.isAnswer then
        IO.println error.message
        return 0
      else
        IO.eprintln error.message
        return 2
  | .ok invocation =>
      let files ← readFiles invocation
      match invocation.runWithDefaults files with
      | .ok output =>
          IO.println output
          return 0
      | .error error =>
          IO.eprintln ("Error: " ++ error.message)
          return 1

end ChordEditor

/-- The program. -/
def main (arguments : List String) : IO UInt32 :=
  ChordEditor.runTool arguments
