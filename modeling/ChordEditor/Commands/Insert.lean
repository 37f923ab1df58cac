import ChordEditor.Commands.Editing
import ChordEditor.Commands.Indentation

namespace ChordEditor.Commands

/-!
# Keys of insert mode

What a key does while text is typed.  Brackets and quotes are typed in pairs, typing a
closing one steps over it, and the backspace takes an empty pair away as a whole.
-/

/-- What a key means in insert mode. -/
inductive InsertKey where
  | char (c : Char)
  | newline
  | tab
  | outdent
  | backspace
  | delete
  | move (motion : Motion)
  deriving Repr, DecidableEq

namespace InsertKey

/-- The motion of a letter pressed with control. -/
def ctrlMotion? : Key → Option Motion
  | .char c =>
      match c.toLower with
      | 'h' => some .left
      | 'j' => some .down
      | 'k' => some .up
      | 'l' => some .right
      | _ => none
  | _ => none

/-- What a key without control means, if it types no character. -/
def ofKey? (shift : Bool) : Key → Option InsertKey
  | .enter => some .newline
  | .tab => some (if shift then .outdent else .tab)
  | .backTab => some .outdent
  | .backspace => some .backspace
  | .delete => some .delete
  | .left => some (.move .left)
  | .right => some (.move .right)
  | .up => some (.move .up)
  | .down => some (.move .down)
  | .home => some (.move .lineStart)
  | .end => some (.move .lineEnd)
  | _ => none

/-- What a press means in insert mode, if it means anything. -/
def ofEvent? (event : KeyEvent) : Option InsertKey :=
  if event.modifiers.ctrl && !event.modifiers.alt then
    (ctrlMotion? event.key).map .move
  else
    match ofKey? event.modifiers.shift event.key with
    | some key => some key
    | none => event.typedChar?.map .char

end InsertKey

/-- The closing partner of a bracket or a quote. -/
def closingOf? (c : Char) : Option Char :=
  if c = '(' then some ')'
  else if c = '[' then some ']'
  else if c = '\x7b' then some '\x7d'
  else if c = '"' ∨ c = '\'' then some c
  else none

/-- Whether a character closes a pair. -/
def isCloser (c : Char) : Bool :=
  c == ')' || c == ']' || c == '\x7d' || c == '"' || c == '\''

/-- What typing a character inserts, given its neighbours; a quote beside a word stays alone. -/
def typedText (c : Char) (previous next : Option Char) : List Char :=
  match closingOf? c with
  | none => [c]
  | some closing =>
      if closing = c ∧ (previous.any Text.isWordChar ∨ next.any Text.isWordChar) then
        [c]
      else
        [c, closing]

/-- The character before a place. -/
def charBefore? (buffer : Buffer) (place : Nat) : Option Char :=
  if place = 0 then none else buffer.charAt? (place - 1)

/-- Type a character; one that closes a pair steps over the same character behind it. -/
def typeChar (c : Char) : CommandM Unit := do
  let editor ← get
  let place := editor.position
  let next := editor.buffer.charAt? place
  unless isCloser c ∧ next = some c do
    CommandM.insert place (typedText c (charBefore? editor.buffer place) next)
  CommandM.setCursor (place + 1)

/--
Break the line at the cursor and indent the new one.  A line with nothing but blanks
before the cursor loses them.
-/
def breakLine : CommandM Unit := do
  let editor ← get
  let place := editor.position
  let start := editor.buffer.lineStart editor.currentLine
  let before := editor.buffer.slice start place
  let indent := indentAfter editor.settings before
  let cut := if !before.isEmpty && Text.isBlankText before then start else place
  if cut < place then
    let _ ← CommandM.delete ⟨cut, place⟩
  CommandM.insert cut ('\n' :: indent)
  CommandM.setCursor (cut + 1 + indent.length)

/-- Insert spaces up to the next tab stop. -/
def typeTab : CommandM Unit := do
  let editor ← get
  let place := editor.position
  let tabWidth := editor.settings.tabWidth
  let spaces := tabWidth - editor.buffer.columnOf place % tabWidth
  CommandM.insert place (List.replicate spaces ' ')
  CommandM.setCursor (place + spaces)

/--
Take one unit of the line's indentation away; the cursor moves with its text.  If the
line gets longer by taking in the next one, the cursor goes to its start; in machine words
the difference of the lengths stops the program then.
-/
def outdentCurrent : CommandM Unit := do
  let editor ← get
  let place := editor.position
  let line := editor.currentLine
  let start := editor.buffer.lineStart line
  let before := editor.buffer.lineLength line
  outdentLine line 1
  let after := (← get).buffer.lineLength line
  let arrival := if after ≤ before then place - (before - after) else start
  CommandM.setCursor (max arrival start)

/-- How many characters the backspace deletes behind the start of a line. -/
def backspaceWidth (tabWidth : Nat) (before : List Char) : Nat :=
  if !before.isEmpty && before.all (· == ' ') then
    before.length - (before.length - 1) / tabWidth * tabWidth
  else
    1

/-- Whether two neighbours are a pair with nothing between. -/
def isEmptyPair (previous next : Option Char) : Bool :=
  match previous.bind closingOf? with
  | some closing => next == some closing
  | none => false

/--
Delete before the cursor: an empty pair, blanks back to a tab stop at the start of a
line, or one character.
-/
def typeBackspace : CommandM Unit := do
  let editor ← get
  let place := editor.position
  if place = 0 then
    return
  if isEmptyPair (charBefore? editor.buffer place) (editor.buffer.charAt? place) then
    let _ ← CommandM.delete ⟨place - 1, place + 1⟩
    CommandM.setCursor (place - 1)
  else
    let start := editor.buffer.lineStart editor.currentLine
    let before := editor.buffer.slice start place
    let width := backspaceWidth editor.settings.tabWidth before
    let _ ← CommandM.delete ⟨place - width, place⟩
    CommandM.setCursor (place - width)

/-- Delete the character at the cursor. -/
def typeDelete : CommandM Unit := do
  let editor ← get
  let place := editor.position
  if place < editor.buffer.length then
    let _ ← CommandM.delete ⟨place, place + 1⟩

/-- Move the cursor without selecting. -/
def moveInserting (motion : Motion) : CommandM Unit :=
  CommandM.change fun editor =>
    { editor with
      window :=
        editor.window.moveCursor editor.buffer motion
          { jumpLines := editor.settings.jumpLines } false }

/-- Do what a key means in insert mode. -/
def runInsertKey : InsertKey → CommandM Unit
  | .char c => typeChar c
  | .newline => breakLine
  | .tab => typeTab
  | .outdent => outdentCurrent
  | .backspace => typeBackspace
  | .delete => typeDelete
  | .move motion => moveInserting motion

end ChordEditor.Commands
