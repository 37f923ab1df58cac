import ChordEditor.Commands.Basic

namespace ChordEditor.Commands

/-!
# Delimiters around the cursor

Putting a pair of delimiters around the word at the cursor, and deleting or exchanging
the pair around the cursor on its line.
-/

/-- The delimiters for a typed character: a pair of brackets, or the character on both sides. -/
def delimiters (c : Char) : Char × Char :=
  if c = '(' ∨ c = ')' then
    ('(', ')')
  else if c = '[' ∨ c = ']' then
    ('[', ']')
  else if c = '\x7b' ∨ c = '\x7d' then
    ('\x7b', '\x7d')
  else
    (c, c)

/--
The index of the nearest opening delimiter without a partner in what stands before some
place, which is given from right to left; `depth` partners are still to be found.
-/
def unmatchedOpening? (opening closing : Char) : Nat → List Char → Option Nat
  | _, [] => none
  | depth, c :: before =>
      if c = closing then
        unmatchedOpening? opening closing (depth + 1) before
      else if c = opening then
        match depth with
        | 0 => some before.length
        | depth + 1 => unmatchedOpening? opening closing depth before
      else
        unmatchedOpening? opening closing depth before

/--
How far the nearest closing delimiter without a partner is ahead; `depth` partners are
still to be found.
-/
def unmatchedClosing? (opening closing : Char) : Nat → List Char → Option Nat
  | _, [] => none
  | depth, c :: ahead =>
      if c = opening then
        (unmatchedClosing? opening closing (depth + 1) ahead).map (· + 1)
      else if c = closing then
        match depth with
        | 0 => some 0
        | depth + 1 => (unmatchedClosing? opening closing depth ahead).map (· + 1)
      else
        (unmatchedClosing? opening closing depth ahead).map (· + 1)

/-- The nearest pair of brackets around a column. -/
def enclosingBrackets?
    (line : List Char)
    (column : Nat)
    (opening closing : Char) : Option (Nat × Nat) := do
  let left ←
    if (line.drop column).head? = some opening then
      some column
    else
      unmatchedOpening? opening closing 0 (line.take column).reverse
  let offset ← unmatchedClosing? opening closing 0 (line.drop (left + 1))
  return (left, left + 1 + offset)

/-- The nearest occurrence of a delimiter at or before a column, and the next one behind it. -/
def enclosingMarks? (line : List Char) (column : Nat) (mark : Char) : Option (Nat × Nat) := do
  let back ← (line.take (column + 1)).reverse.idxOf? mark
  let left := (line.take (column + 1)).length - 1 - back
  let offset ← (line.drop (left + 1)).idxOf? mark
  return (left, left + 1 + offset)

/-- The columns of the pair of delimiters around a column of a line. -/
def findEnclosing?
    (line : List Char)
    (column : Nat)
    (opening closing : Char) : Option (Nat × Nat) :=
  if line.isEmpty then
    none
  else
    let column := min column (line.length - 1)
    if opening = closing then
      enclosingMarks? line column opening
    else
      enclosingBrackets? line column opening closing

/-- The places of the pair of delimiters around the cursor. -/
def enclosingPair? (editor : Editor) (delimiters : Char × Char) : Option (Nat × Nat) :=
  let line := editor.currentLine
  let start := editor.buffer.lineStart line
  (findEnclosing? (editor.buffer.lineText line) (editor.position - start)
      delimiters.1 delimiters.2).map
    fun (left, right) => (start + left, start + right)

/-- The span of a single character. -/
def charSpan (place : Nat) : Span :=
  ⟨place, place + 1⟩

/-- Put delimiters around the word at the cursor. -/
def surroundWord (context : CommandContext) : CommandM Unit := do
  let editor ← get
  match context.literals[0]?, editor.buffer.wordSpan? editor.position with
  | some c, some span =>
      let (opening, closing) := delimiters c
      CommandM.insert span.stop [closing]
      CommandM.insert span.start [opening]
      CommandM.setCursor (editor.position + 1)
  | _, _ => return

/-- Delete the delimiters around the cursor. -/
def deleteSurround (context : CommandContext) : CommandM Unit := do
  let editor ← get
  match context.literals[0]?.bind fun c => enclosingPair? editor (delimiters c) with
  | some (left, right) =>
      let _ ← CommandM.delete (charSpan right)
      let _ ← CommandM.delete (charSpan left)
      CommandM.setCursor left
  | none => return

/-- Exchange the delimiters around the cursor for others. -/
def changeSurround (context : CommandContext) : CommandM Unit := do
  let editor ← get
  match context.literals[0]?, context.literals[1]? with
  | some former, some wanted =>
      match enclosingPair? editor (delimiters former) with
      | some (left, right) =>
          let (opening, closing) := delimiters wanted
          CommandM.replace (charSpan right) [closing]
          CommandM.replace (charSpan left) [opening]
          CommandM.setCursor left
      | none => return
  | _, _ => return

end ChordEditor.Commands
