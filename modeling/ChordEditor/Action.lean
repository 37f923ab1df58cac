import ChordEditor.Motion

namespace ChordEditor

/-!
# Modes and actions

The mode says what typed keys mean.  An action is what a chord is bound to.  Its arguments
at run time, the count and the captured characters, come in a `CommandContext`.
-/

/-- What typed keys mean. -/
inductive Mode where
  | normal
  | insert
  | visual
  | visualLine
  deriving Repr, DecidableEq, Inhabited

namespace Mode

/-- Whether the mode has a selection that follows the cursor. -/
def isVisual : Mode → Bool
  | .visual | .visualLine => true
  | .normal | .insert => false

/-- The name shown to the user. -/
def title : Mode → String
  | .normal => "NORMAL"
  | .insert => "INSERT"
  | .visual => "VISUAL"
  | .visualLine => "VISUAL LINE"

end Mode

/-- Where a command that begins inserting puts the cursor. -/
inductive InsertEntry where
  | beforeCursor
  | afterCursor
  | lineStart
  | lineEnd
  | lineBelow
  | lineAbove
  deriving Repr, DecidableEq

/-- What to do with the comment marker of a line. -/
inductive CommentChange where
  | toggle
  | comment
  | uncomment
  deriving Repr, DecidableEq

/-- The input lines that can be opened. -/
inductive Prompt where
  | command
  | search
  deriving Repr, DecidableEq

namespace Prompt

/-- What is shown in front of the typed text. -/
def mark : Prompt → String
  | .command => ":"
  | .search => "/"

end Prompt

/-- The commands that chords are bound to. -/
inductive Action where
  /-- Move; in visual modes the selection follows. -/
  | move (motion : Motion)
  | delete (motion : Motion)
  | change (motion : Motion)
  | yank (motion : Motion)
  | deleteLines
  | changeLines
  | yankLines
  /-- Delete to the end of the line, and the blanks left before the cursor. -/
  | deleteToLineEnd
  | deleteChar
  | substituteChar
  | replaceChar
  | joinLines
  | paste (before : Bool)
  | insert (entry : InsertEntry)
  /-- Enter a visual mode, leave it, or change over from the other one. -/
  | visual (mode : Mode)
  | deleteSelection
  | changeSelection
  | yankSelection
  | indent
  | outdent
  /-- The word at the cursor, or the selection in visual modes. -/
  | changeCase (upper : Bool)
  | comment (change : CommentChange)
  | commentLineEnd
  | commentAtCursor
  | surround
  | deleteSurround
  | changeSurround
  | searchWord
  | searchNext
  | searchPrevious
  | clearSearch
  | openPrompt (prompt : Prompt)
  | gotoDefinition
  | jumpBack
  | jumpForward
  | scrollDown
  | scrollUp
  | centerView
  | undo
  | redo
  | nextPage
  | previousPage
  | zoomIn
  | zoomOut
  deriving Repr, DecidableEq

namespace Action

/-- The name of an action, used to describe edit groups and failures. -/
def name : Action → String
  | .move _ => "move"
  | .delete _ => "delete-towards"
  | .change _ => "change-towards"
  | .yank _ => "yank-towards"
  | .deleteLines => "delete-lines"
  | .changeLines => "change-lines"
  | .yankLines => "yank-lines"
  | .deleteToLineEnd => "delete-to-line-end"
  | .deleteChar => "delete-char"
  | .substituteChar => "substitute-char"
  | .replaceChar => "replace-char"
  | .joinLines => "join-lines"
  | .paste _ => "paste"
  | .insert _ => "insert"
  | .visual _ => "visual"
  | .deleteSelection => "delete-selection"
  | .changeSelection => "change-selection"
  | .yankSelection => "yank-selection"
  | .indent => "indent"
  | .outdent => "outdent"
  | .changeCase _ => "change-case"
  | .comment _ => "comment"
  | .commentLineEnd => "comment-line-end"
  | .commentAtCursor => "comment-at-cursor"
  | .surround => "surround"
  | .deleteSurround => "delete-surround"
  | .changeSurround => "change-surround"
  | .searchWord => "search-word"
  | .searchNext => "search-next"
  | .searchPrevious => "search-previous"
  | .clearSearch => "clear-search"
  | .openPrompt _ => "open-prompt"
  | .gotoDefinition => "goto-definition"
  | .jumpBack => "jump-back"
  | .jumpForward => "jump-forward"
  | .scrollDown => "scroll-down"
  | .scrollUp => "scroll-up"
  | .centerView => "center-view"
  | .undo => "undo"
  | .redo => "redo"
  | .nextPage => "next-page"
  | .previousPage => "previous-page"
  | .zoomIn => "zoom-in"
  | .zoomOut => "zoom-out"

end Action

/-- The arguments of an action at run time. -/
structure CommandContext where
  count : Nat := 1
  /-- Whether the count was typed. -/
  explicitCount : Bool := false
  /-- The captured characters, in order. -/
  literals : List Char := []
  deriving Repr, DecidableEq

namespace CommandContext

/-- The arguments that a motion takes from the context. -/
def motionArgs (context : CommandContext) (jumpLines : Nat) : MotionArgs :=
  { count := context.count
    literal := context.literals[0]?
    line := if context.explicitCount then some context.count else none
    jumpLines }

end CommandContext

end ChordEditor
