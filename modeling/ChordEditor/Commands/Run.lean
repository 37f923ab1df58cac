import ChordEditor.Commands.Comment
import ChordEditor.Commands.Editing
import ChordEditor.Commands.Indentation
import ChordEditor.Commands.Navigation
import ChordEditor.Commands.Operator
import ChordEditor.Commands.Search
import ChordEditor.Commands.Surround

namespace ChordEditor.Commands

/-!
# What actions do
-/

/-- Run an action. -/
def runAction (action : Action) (context : CommandContext) : CommandM Unit :=
  match action with
  | .move motion => move motion context
  | .delete motion => deleteTowards motion context
  | .change motion => changeTowards motion context
  | .yank motion => yankTowards motion context
  | .deleteLines => deleteLines context
  | .changeLines => changeLines context
  | .yankLines => yankLines context
  | .deleteToLineEnd => deleteToLineEnd
  | .deleteChar => deleteChar context
  | .substituteChar => substituteChar context
  | .replaceChar => replaceChar context
  | .joinLines => joinLines context
  | .paste before => paste before context
  | .insert entry => enterInsert entry
  | .visual mode => toggleVisual mode
  | .deleteSelection => deleteSelection
  | .changeSelection => changeSelection
  | .yankSelection => yankSelection
  | .indent => shift true context
  | .outdent => shift false context
  | .changeCase upper => changeCase upper
  | .comment change => commentLines change context
  | .commentLineEnd => commentLineEnd
  | .commentAtCursor => commentAtCursor
  | .surround => surroundWord context
  | .deleteSurround => deleteSurround context
  | .changeSurround => changeSurround context
  | .searchWord => searchWord
  | .searchNext => searchNext true context
  | .searchPrevious => searchNext false context
  | .clearSearch => clearSearch
  | .openPrompt prompt => openPrompt prompt
  | .gotoDefinition => gotoDefinition
  | .jumpBack => jumpBack
  | .jumpForward => jumpForward
  | .scrollDown => scroll true context
  | .scrollUp => scroll false context
  | .centerView => centerView
  | .undo => undo context.count
  | .redo => redo context.count
  | .nextPage => CommandM.request .nextPage
  | .previousPage => CommandM.request .previousPage
  | .zoomIn => CommandM.request .zoomIn
  | .zoomOut => CommandM.request .zoomOut

end ChordEditor.Commands
