import ChordEditor.Commands.Basic
import ChordEditor.Definition.Lookup

namespace ChordEditor.Commands

/-!
# Moving, scrolling, going to definitions, and back
-/

/-- Move the cursor; in visual modes the selection follows. -/
def move (motion : Motion) (context : CommandContext) : CommandM Unit :=
  CommandM.change fun editor =>
    { editor with
      window :=
        editor.window.moveCursor editor.buffer motion
          (context.motionArgs editor.settings.jumpLines) editor.mode.isVisual }

/-- Scroll the view, keeping the cursor in it. -/
def scroll (down : Bool) (context : CommandContext) : CommandM Unit :=
  CommandM.change fun editor =>
    let lines : Int := editor.settings.scrollLines * context.count
    { editor with
      window := editor.window.scrollBy editor.buffer (if down then lines else -lines) }

/-- Put the line of the cursor in the middle of the view. -/
def centerView : CommandM Unit :=
  CommandM.changeWindow Window.centerOnCursor

/-- Go to a definition, noting the place left. -/
def jumpTo (location : Location) : CommandM Unit :=
  CommandM.change fun editor =>
    let noted := { editor with jumps := editor.jumps.push editor.position }
    let arrived :=
      noted.setCursor (noted.buffer.offsetAt location.line location.column)
    { arrived with window := arrived.window.centerOnCursor arrived.buffer }

/-- Go to the definition of the word at the cursor; what stands in the way is told. -/
def gotoDefinition : CommandM Unit := do
  let editor ← get
  match editor.buffer.wordSpan? editor.position with
  | none => CommandM.tell "No identifier under cursor"
  | some span =>
      let word := editor.buffer.spanText span
      match
        DefinitionLookup.find editor.grammars.parser editor.grammar.name editor.buffer.text word
      with
      | .found location => jumpTo location
      | .notFound => CommandM.tell ("Definition of " ++ String.ofList word ++ " not found")
      | .unsupported =>
          CommandM.tell ("Goto definition is not available for " ++ editor.grammar.name)
      | .brokenText line =>
          CommandM.tell ("Syntax error on line " ++ toString line)
          CommandM.request (.reportLineError line)
      | .noParser reason => CommandM.tell (DefinitionLookup.parserMessage reason)

/-- Go to a place of the jump list. -/
def followJump (found : Option (Nat × JumpList)) : CommandM Unit :=
  match found with
  | some (place, jumps) =>
      CommandM.change fun editor => { editor with jumps }.setCursor place
  | none => pure ()

/-- Go back to where the last jump left. -/
def jumpBack : CommandM Unit := do
  let editor ← get
  followJump (editor.jumps.back? editor.position)

/-- Go forward again after going back. -/
def jumpForward : CommandM Unit := do
  let editor ← get
  followJump (editor.jumps.forward? editor.position)

end ChordEditor.Commands
