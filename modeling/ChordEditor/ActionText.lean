import ChordEditor.Action
import ChordEditor.KeyTable

namespace ChordEditor

/-!
# Actions as text

The written form of every action, with its arguments.  `Action.written` alone says how an
action is written; reading looks a text up among the written forms of all actions.
-/

/-- A field with a truth value, as it is written behind a name. -/
def writtenField (name : String) (value : Bool) : String :=
  " \x7b " ++ name ++ ": " ++ (if value then "true" else "false") ++ " \x7d"

/-- An argument in parentheses. -/
def writtenArgument (name argument : String) : String :=
  name ++ "(" ++ argument ++ ")"

namespace Motion

/-- The written form of a motion. -/
def written : Motion → String
  | .left => "Left"
  | .right => "Right"
  | .up => "Up"
  | .down => "Down"
  | .lineStart => "LineStart"
  | .lineEnd => "LineEnd"
  | .lastChar => "LastChar"
  | .firstNonBlank => "FirstNonBlank"
  | .wordForward => "WordForward"
  | .wordEnd => "WordEnd"
  | .wordBackward => "WordBackward"
  | .findChar backward => "FindChar" ++ writtenField "backward" backward
  | .documentStart => "DocumentStart"
  | .documentEnd => "DocumentEnd"
  | .jumpDown => "JumpDown"
  | .jumpUp => "JumpUp"

/-- All motions. -/
def all : List Motion :=
  [ .left, .right, .up, .down, .lineStart, .lineEnd, .lastChar, .firstNonBlank,
    .wordForward, .wordEnd, .wordBackward, .findChar false, .findChar true,
    .documentStart, .documentEnd, .jumpDown, .jumpUp ]

/-- The motion with a written form. -/
def ofWritten? (text : String) : Option Motion :=
  all.find? fun motion => motion.written == text

end Motion

namespace InsertEntry

/-- The written form of a place to begin inserting. -/
def written : InsertEntry → String
  | .beforeCursor => "BeforeCursor"
  | .afterCursor => "AfterCursor"
  | .lineStart => "LineStart"
  | .lineEnd => "LineEnd"
  | .lineBelow => "LineBelow"
  | .lineAbove => "LineAbove"

/-- All places to begin inserting. -/
def all : List InsertEntry :=
  [.beforeCursor, .afterCursor, .lineStart, .lineEnd, .lineBelow, .lineAbove]

end InsertEntry

namespace Mode

/-- The written form of a mode. -/
def written : Mode → String
  | .normal => "Normal"
  | .insert => "Insert"
  | .visual => "Visual"
  | .visualLine => "VisualLine"

/-- All modes. -/
def all : List Mode :=
  [.normal, .insert, .visual, .visualLine]

/-- The mode with a title. -/
def ofTitle? (title : String) : Option Mode :=
  all.find? fun mode => mode.title == title

end Mode

namespace CommentChange

/-- The written form of what to do with a comment marker. -/
def written : CommentChange → String
  | .toggle => "Toggle"
  | .comment => "Comment"
  | .uncomment => "Uncomment"

/-- All that can be done with a comment marker. -/
def all : List CommentChange :=
  [.toggle, .comment, .uncomment]

/-- What to do with a comment marker, by its written form. -/
def ofWritten? (text : String) : Option CommentChange :=
  all.find? fun change => change.written == text

end CommentChange

namespace Prompt

/-- The written form of an input line. -/
def written : Prompt → String
  | .command => "Command"
  | .search => "Search"

end Prompt

namespace TableName

/-- The written form of the name of a key table. -/
def written : TableName → String
  | .normal => "Normal"
  | .visual => "Visual"
  | .leaderNormal => "LeaderNormal"
  | .leaderVisual => "LeaderVisual"

/-- All names of key tables. -/
def all : List TableName :=
  [.normal, .visual, .leaderNormal, .leaderVisual]

/-- The name of a key table by its written form. -/
def ofWritten? (text : String) : Option TableName :=
  all.find? fun name => name.written == text

end TableName

namespace Action

/-- The written form of an action. -/
def written : Action → String
  | .move motion => writtenArgument "Move" motion.written
  | .delete motion => writtenArgument "Delete" motion.written
  | .change motion => writtenArgument "Change" motion.written
  | .yank motion => writtenArgument "Yank" motion.written
  | .deleteLines => "DeleteLines"
  | .changeLines => "ChangeLines"
  | .yankLines => "YankLines"
  | .deleteToLineEnd => "DeleteToLineEnd"
  | .deleteChar => "DeleteChar"
  | .substituteChar => "SubstituteChar"
  | .replaceChar => "ReplaceChar"
  | .joinLines => "JoinLines"
  | .paste before => "Paste" ++ writtenField "before" before
  | .insert entry => writtenArgument "Insert" entry.written
  | .visual mode => writtenArgument "Visual" mode.written
  | .deleteSelection => "DeleteSelection"
  | .changeSelection => "ChangeSelection"
  | .yankSelection => "YankSelection"
  | .indent => "Indent"
  | .outdent => "Outdent"
  | .changeCase upper => "Case" ++ writtenField "upper" upper
  | .comment how => writtenArgument "Comment" how.written
  | .commentLineEnd => "CommentLineEnd"
  | .commentAtCursor => "CommentAtCursor"
  | .surround => "Surround"
  | .deleteSurround => "DeleteSurround"
  | .changeSurround => "ChangeSurround"
  | .searchWord => "SearchWord"
  | .searchNext => "SearchNext"
  | .searchPrevious => "SearchPrevious"
  | .clearSearch => "ClearSearch"
  | .openPrompt prompt => writtenArgument "OpenPrompt" prompt.written
  | .gotoDefinition => "GotoDefinition"
  | .jumpBack => "JumpBack"
  | .jumpForward => "JumpForward"
  | .scrollDown => "ScrollDown"
  | .scrollUp => "ScrollUp"
  | .centerView => "CenterView"
  | .undo => "Undo"
  | .redo => "Redo"
  | .nextPage => "NextPage"
  | .previousPage => "PreviousPage"
  | .zoomIn => "ZoomIn"
  | .zoomOut => "ZoomOut"

/-- All actions without arguments. -/
def plain : List Action :=
  [ .deleteLines, .changeLines, .yankLines, .deleteToLineEnd, .deleteChar,
    .substituteChar, .replaceChar, .joinLines, .deleteSelection, .changeSelection,
    .yankSelection, .indent, .outdent, .commentLineEnd, .commentAtCursor, .surround,
    .deleteSurround, .changeSurround, .searchWord, .searchNext, .searchPrevious,
    .clearSearch, .gotoDefinition, .jumpBack, .jumpForward, .scrollDown, .scrollUp,
    .centerView, .undo, .redo, .nextPage, .previousPage, .zoomIn, .zoomOut ]

/-- All actions. -/
def all : List Action :=
  plain ++
  Motion.all.flatMap (fun motion => [.move motion, .delete motion, .change motion, .yank motion]) ++
  InsertEntry.all.map .insert ++
  Mode.all.map .visual ++
  CommentChange.all.map .comment ++
  [ .paste false, .paste true, .changeCase false, .changeCase true,
    .openPrompt .command, .openPrompt .search ]

/-- The action with a written form. -/
def ofWritten? (text : String) : Option Action :=
  all.find? fun action => action.written == text

end Action

end ChordEditor
