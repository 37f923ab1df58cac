import ChordEditor.KeyEvent

namespace ChordEditor

/-!
# Key notation

Key notation writes a run of key presses as text: `3dw`, `ihello<Esc>`, `<C-d>`.  A
`<` that begins no name is the key itself, so that `<<` and `>>` read as typed.
`<wait:N>` lets N milliseconds pass and presses nothing.  Presses are ten
milliseconds apart.  The clock is taken not to go beyond the machine words.
-/

namespace KeyNotation

/-- Milliseconds between two presses. -/
def step : Nat := 10

/--
Read the modifiers in front of a key name.  A letter and a dash are a modifier only if
something follows them.
-/
def readModifiers : List Char → Modifiers → Modifiers × List Char
  | letter :: '-' :: c :: rest, held =>
      match letter.toUpper with
      | 'C' => readModifiers (c :: rest) { held with ctrl := true }
      | 'A' | 'M' => readModifiers (c :: rest) { held with alt := true }
      | 'S' => readModifiers (c :: rest) { held with shift := true }
      | _ => (held, letter :: '-' :: c :: rest)
  | name, held => (held, name)

/-- Read a key name with modifiers, such as `C-d`, `S-Tab` or `Esc`. -/
def readName (name : List Char) : Except KeyError KeyEvent := do
  let (held, rest) := readModifiers name {}
  let key ← Key.ofName rest
  let key := if held.shift ∧ key = .tab then .backTab else key
  let held :=
    match key with
    | .char c => if Text.isUppercase c then { held with shift := true } else held
    | _ => held
  return { key, modifiers := held }

/-- A name between angle brackets at the start of a text, and the text behind it. -/
def bracketedName? (text : List Char) : Option (List Char × List Char) :=
  match text with
  | '<' :: inside =>
      let name := inside.takeWhile (· != '>')
      match inside.drop name.length with
      | _ :: rest =>
          if name.isEmpty || name.contains '<' || name.contains ' ' then
            none
          else
            some (name, rest)
      | [] => none
  | _ => none

/-- What stands in front of the milliseconds of a pause. -/
def waitMark : List Char := "wait:".toList

/-- The milliseconds of a pause, if the name is one. -/
def pause? (name : List Char) : Option (Except KeyError Nat) :=
  if waitMark.isPrefixOf name then
    match Text.unsigned? Text.maxWord64 (name.drop waitMark.length) with
    | some pause => some (.ok pause)
    | none => some (.error (.unknownKey (String.ofList name)))
  else
    none

/-- The press of an unnamed key at some time. -/
def pressOf (c : Char) (time : Nat) : KeyEvent :=
  if c = '\n' then
    { key := .enter, time }
  else if c = '\t' then
    { key := .tab, time }
  else
    .ofChar c time

/-- The text behind a bracketed name is shorter than the text with it. -/
theorem bracketedName?_length
    {text name rest : List Char}
    (found : bracketedName? text = some (name, rest)) :
    rest.length < text.length := by
  unfold bracketedName? at found
  split at found
  · rename_i inside
    simp only at found
    split at found
    · rename_i behind
      split at found
      · contradiction
      · simp only [Option.some.injEq, Prod.mk.injEq] at found
        obtain ⟨_, rfl⟩ := found
        have lengths := congrArg List.length behind
        simp only [List.length_drop, List.length_cons] at lengths
        simp only [List.length_cons]
        omega
    · contradiction
  · contradiction

/-- Read the presses of a text when the clock shows `clock`. -/
def readFrom (clock : Nat) (text : List Char) : Except KeyError (List KeyEvent) :=
  match _shape : text with
  | [] => .ok []
  | c :: rest =>
      match _found : bracketedName? text with
      | some (name, behind) =>
          match pause? name with
          | some (.ok pause) => readFrom (clock + pause) behind
          | some (.error reason) => .error reason
          | none => do
              let event ← readName name
              let events ← readFrom (clock + step) behind
              return { event with time := clock + step } :: events
      | none => do
          let events ← readFrom (clock + step) rest
          return pressOf c (clock + step) :: events
termination_by text.length
decreasing_by
  all_goals
    first
      | (have shorter := bracketedName?_length _found; simp_all)
      | (simp_all)

/-- Read the presses of a text, starting when the clock shows zero. -/
def read (text : List Char) : Except KeyError (List KeyEvent) :=
  readFrom 0 text

end KeyNotation

end ChordEditor
