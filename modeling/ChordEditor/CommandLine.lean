import ChordEditor.Action

namespace ChordEditor

/-!
# The command line

The line that is typed after `:` or `/`, with a cursor of its own.
-/

/-- A line being typed. -/
structure CommandLine where
  prompt : Prompt
  text : List Char := []
  /-- How many characters stand before the cursor. -/
  cursor : Nat := 0
  deriving Repr, DecidableEq

namespace CommandLine

/-- The line with the mark of its prompt. -/
def display (line : CommandLine) : String :=
  line.prompt.mark ++ String.ofList line.text

/-- Type a character. -/
def insert (line : CommandLine) (c : Char) : CommandLine :=
  { line with
    text := line.text.take line.cursor ++ c :: line.text.drop line.cursor
    cursor := line.cursor + 1 }

/-- Delete the character behind the cursor. -/
def delete (line : CommandLine) : CommandLine :=
  { line with text := line.text.eraseIdx line.cursor }

/-- Delete the character before the cursor. -/
def backspace (line : CommandLine) : CommandLine :=
  if line.cursor = 0 then
    line
  else
    { line with
      text := line.text.eraseIdx (line.cursor - 1)
      cursor := line.cursor - 1 }

/-- Whether deleting before the cursor finds an empty line, which closes it. -/
def isLeftByBackspace (line : CommandLine) : Bool :=
  line.cursor == 0 && line.text.isEmpty

/-- Move the cursor to the left. -/
def moveLeft (line : CommandLine) : CommandLine :=
  { line with cursor := line.cursor - 1 }

/-- Move the cursor to the right. -/
def moveRight (line : CommandLine) : CommandLine :=
  { line with cursor := min (line.cursor + 1) line.text.length }

/-- Move the cursor to the start. -/
def moveHome (line : CommandLine) : CommandLine :=
  { line with cursor := 0 }

/-- Move the cursor to the end. -/
def moveEnd (line : CommandLine) : CommandLine :=
  { line with cursor := line.text.length }

/-- The command that the line stands for; a search keeps its mark. -/
def submission (line : CommandLine) : List Char :=
  match line.prompt with
  | .command => line.text
  | .search => '/' :: line.text

end CommandLine

end ChordEditor
