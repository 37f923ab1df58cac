import ChordEditor.Commands.Basic

namespace ChordEditor.Commands

/-!
# Searching, and opening the command line
-/

/-- Change the state of the search, looking at the buffer. -/
def changeSearch (step : SearchState → Buffer → SearchState) : CommandM Unit :=
  CommandM.change fun editor => { editor with search := step editor.search editor.buffer }

/-- Start searching for a term. -/
def setSearch (term : List Char) (wholeWord : Bool) : CommandM Unit :=
  changeSearch fun search buffer => search.set term wholeWord buffer

/-- Tell how often a term was found. -/
def tellMatches (term : List Char) : CommandM Unit :=
  CommandM.change fun editor =>
    let count := editor.search.matched.length
    let plural := if count = 1 then "" else "es"
    editor.tell (toString count ++ " match" ++ plural ++ " for " ++ String.ofList term)

/-- Tell that a term was not found. -/
def tellNotFound (term : List Char) : CommandM Unit :=
  CommandM.tell ("Pattern not found: " ++ String.ofList term)

/-- Search for the word at the cursor, which stays where it is. -/
def searchWord : CommandM Unit := do
  let editor ← get
  match editor.buffer.wordSpan? editor.position with
  | none => CommandM.tell "No word under cursor"
  | some span =>
      let word := editor.buffer.spanText span
      setSearch word true
      tellMatches word

/-- Search for a term and go to the first match behind the cursor. -/
def searchTerm (term : List Char) : CommandM Unit := do
  setSearch term false
  let editor ← get
  if term.isEmpty then
    return
  else if editor.search.matched.isEmpty then
    tellNotFound term
  else
    match editor.search.next? editor.position 1 with
    | some place => CommandM.setCursor place
    | none => pure ()
    tellMatches term

/-- Go to a following match, or to an earlier one. -/
def searchNext (forward : Bool) (context : CommandContext) : CommandM Unit := do
  changeSearch SearchState.resume
  let editor ← get
  let place :=
    if forward then
      editor.search.next? editor.position context.count
    else
      editor.search.previous? editor.position context.count
  match place, editor.search.term with
  | some place, _ => CommandM.setCursor place
  | none, some term => tellNotFound term.text
  | none, none => CommandM.tell "No previous search"

/-- Drop the matches. -/
def clearSearch : CommandM Unit :=
  changeSearch fun search _ => search.clear

/-- Open an input line. -/
def openPrompt (prompt : Prompt) : CommandM Unit :=
  CommandM.change fun editor => { editor with commandLine := some { prompt } }

end ChordEditor.Commands
