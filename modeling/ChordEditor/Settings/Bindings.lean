import ChordEditor.KeyTable

namespace ChordEditor.KeyTables

/-!
# Default bindings

The chords that the editor binds by itself, in the order in which they are bound.
-/

/-- A chord as it is written, and the action to bind it to. -/
abbrev WrittenBinding := String × Action

/-- The motions of the normal and the visual tables. -/
def motions : List (String × Motion) :=
  [ ("h", .left),
    ("j", .down),
    ("k", .up),
    ("l", .right),
    ("0", .lineStart),
    ("$", .lineEnd),
    ("^", .firstNonBlank),
    ("_", .firstNonBlank),
    ("w", .wordForward),
    ("e", .wordEnd),
    ("b", .wordBackward),
    ("f?", .findChar false),
    ("F?", .findChar true),
    ("gg", .documentStart),
    ("G", .documentEnd),
    ("ctrl+d", .jumpDown),
    ("ctrl+u", .jumpUp) ]

/-- The motions that operators combine with. -/
def operatorMotions : List (String × Motion) :=
  [ ("0", .lineStart),
    ("_", .firstNonBlank),
    ("$", .lineEnd),
    ("b", .wordBackward),
    ("e", .wordEnd),
    ("w", .wordForward),
    ("f?", .findChar false),
    ("F?", .findChar true),
    ("h", .left),
    ("j", .down),
    ("k", .up),
    ("l", .right),
    ("gg", .documentStart),
    ("G", .documentEnd) ]

/-- Operators in front of a motion. -/
def operatorBindings (motion : String × Motion) : List WrittenBinding :=
  [ ("d" ++ motion.1, .delete motion.2),
    ("c" ++ motion.1, .change motion.2),
    ("y" ++ motion.1, .yank motion.2) ]

/--
The normal table.  The motion to the line's end rests on its last character there, and
a change towards the next word goes only to the end of this one.
-/
def normalBindings : List WrittenBinding :=
  (motions.map fun motion => (motion.1, Action.move motion.2)) ++
  [("$", .move .lastChar)] ++
  operatorMotions.flatMap operatorBindings ++
  [ ("cw", .change .wordEnd),
    ("dd", .deleteLines),
    ("cc", .changeLines),
    ("yy", .yankLines),
    ("D", .deleteToLineEnd),
    ("C", .change .lineEnd),
    ("x", .deleteChar),
    ("s", .substituteChar),
    ("r?", .replaceChar),
    ("J", .joinLines),
    ("p", .paste false),
    ("P", .paste true),
    (">>", .indent),
    ("<<", .outdent),
    ("gUaw", .changeCase true),
    ("guaw", .changeCase false),
    ("ysiw?", .surround),
    ("ds?", .deleteSurround),
    ("cs??", .changeSurround),
    ("u", .undo),
    ("ctrl+r", .redo),
    ("i", .insert .beforeCursor),
    ("a", .insert .afterCursor),
    ("I", .insert .lineStart),
    ("A", .insert .lineEnd),
    ("o", .insert .lineBelow),
    ("O", .insert .lineAbove),
    ("v", .visual .visual),
    ("V", .visual .visualLine),
    ("*", .searchWord),
    ("n", .searchNext),
    ("N", .searchPrevious),
    ("/", .openPrompt .search),
    (":", .openPrompt .command),
    ("ctrl+[", .clearSearch),
    ("ctrl+e", .scrollDown),
    ("ctrl+y", .scrollUp),
    ("zz", .centerView),
    ("ctrl+]", .gotoDefinition),
    ("ctrl+o", .jumpBack),
    ("ctrl+i", .jumpForward),
    ("gt", .nextPage),
    ("gT", .previousPage),
    ("ctrl++", .zoomIn),
    ("ctrl+=", .zoomIn),
    ("ctrl+-", .zoomOut) ]

/-- The table of the visual modes. -/
def visualBindings : List WrittenBinding :=
  (motions.map fun motion => (motion.1, Action.move motion.2)) ++
  [ ("ctrl+e", .scrollDown),
    ("ctrl+y", .scrollUp),
    ("d", .deleteSelection),
    ("x", .deleteSelection),
    ("c", .changeSelection),
    ("y", .yankSelection),
    ("u", .changeCase false),
    ("U", .changeCase true),
    (">", .indent),
    ("<", .outdent),
    ("v", .visual .visual),
    ("V", .visual .visualLine) ]

/-- The changes of comments, bound behind the leader in normal and visual modes. -/
def commentBindings : List WrittenBinding :=
  [ ("ci", .comment .toggle),
    ("cc", .comment .comment),
    ("cu", .comment .uncomment) ]

/-- The table of normal mode behind the leader. -/
def leaderNormalBindings : List WrittenBinding :=
  commentBindings ++ [("cA", .commentLineEnd), ("c$", .commentAtCursor)]

/-- Bind written chords in the table with a name. -/
def bindAll
    (tables : KeyTables)
    (name : TableName)
    (bindings : List WrittenBinding) : Except KeyError KeyTables :=
  bindings.foldlM
    (fun tables (written, action) => do
      let chord ← Chord.read written
      return tables.bind name chord action)
    tables

/-- The tables that the editor begins with. -/
def defaults : Except KeyError KeyTables := do
  let tables ← ({} : KeyTables).bindAll .normal normalBindings
  let tables ← tables.bindAll .visual visualBindings
  let tables ← tables.bindAll .leaderNormal leaderNormalBindings
  tables.bindAll .leaderVisual commentBindings

end ChordEditor.KeyTables
