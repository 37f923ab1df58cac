import ChordEditor.Text.Blank
import ChordEditor.Text.Classes

namespace ChordEditor

/-!
# Commands of the command line

What a submitted line asks for.  Blanks around it do not count.  A substitution is
written `s/pattern/replacement/flags`, with `%` in front for the whole document; a
slash in its parts is written with a backslash before it, and any other backslash
stands for itself.
-/

/-- What a submitted line asks for. -/
inductive LineCommand where
  | empty
  | write
  | quit
  | writeQuit
  | tabNew
  | tabClose
  | tabOnly
  | retab
  /-- Go to a line, counted from one. -/
  | gotoLine (line : Nat)
  | search (term : List Char)
  | substitute
      (pattern replacement : List Char)
      (wholeDocument everywhere : Bool)
  | unknown (text : List Char)
  deriving Repr, DecidableEq

namespace LineCommand

/-- The name of a kind of command. -/
def name : LineCommand → String
  | .empty => "Empty"
  | .write => "Write"
  | .quit => "Quit"
  | .writeQuit => "WriteQuit"
  | .tabNew => "TabNew"
  | .tabClose => "TabClose"
  | .tabOnly => "TabOnly"
  | .retab => "Retab"
  | .gotoLine _ => "GotoLine"
  | .search _ => "Search"
  | .substitute _ _ _ _ => "Substitute"
  | .unknown _ => "Unknown"

/-- The commands that are single words. -/
def words : List (String × LineCommand) :=
  [ ("w", .write), ("write", .write),
    ("q", .quit), ("quit", .quit),
    ("wq", .writeQuit), ("x", .writeQuit),
    ("tabnew", .tabNew),
    ("tabclose", .tabClose), ("tabc", .tabClose),
    ("tabo", .tabOnly), ("tabonly", .tabOnly),
    ("retab", .retab) ]

/-- Put a character in front of the first of some parts. -/
def consFirst (c : Char) : List (List Char) → List (List Char)
  | [] => [[c]]
  | part :: parts => (c :: part) :: parts

/-- The parts between slashes that have no backslash before them. -/
def slashParts : List Char → List (List Char)
  | [] => [[]]
  | '\\' :: '/' :: rest => consFirst '/' (slashParts rest)
  | '\\' :: c :: rest => consFirst '\\' (consFirst c (slashParts rest))
  | c :: rest => if c = '/' then [] :: slashParts rest else consFirst c (slashParts rest)

/-- The substitution with some parts: a pattern, a replacement, and flags if there are any. -/
def substitution? (wholeDocument : Bool) : List (List Char) → Option LineCommand
  | pattern :: replacement :: more =>
      if pattern.isEmpty then
        none
      else
        match more with
        | [] => some (.substitute pattern replacement wholeDocument false)
        | [flags] =>
            if flags.all (· == 'g') then
              some (.substitute pattern replacement wholeDocument (!flags.isEmpty))
            else
              none
        | _ => none
  | _ => none

/-- Read a substitution. -/
def readSubstitution? (text : List Char) : Option LineCommand :=
  match text with
  | '%' :: 's' :: '/' :: body => substitution? true (slashParts body)
  | 's' :: '/' :: body => substitution? false (slashParts body)
  | _ => none

/-- Read a submitted line. -/
def read (input : List Char) : LineCommand :=
  match Text.trim input with
  | [] => .empty
  | '/' :: term => .search term
  | c :: rest =>
      let text := c :: rest
      match Text.unsigned? Text.maxWord64 text with
      | some line => .gotoLine line
      | none =>
          match words.lookup (String.ofList text) with
          | some command => command
          | none => (readSubstitution? text).getD (.unknown text)

end LineCommand

end ChordEditor
