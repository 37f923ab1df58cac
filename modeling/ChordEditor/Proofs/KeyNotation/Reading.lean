import ChordEditor.KeyNotation
import Mathlib.Tactic.IntervalCases

namespace ChordEditor

/-!
# Reading key notation

A name between angle brackets is marks for what is held and a name for the key.  What a
text reads as follows its own recursion: a name at the front, or a key that stands for
itself.  Each press that is read holds shift for a capital and has the number of a key that
exists (`isRead_of_mem`).
-/

namespace KeyNotation

/-! ## Names between angle brackets -/

/-- The marks of what is held with a key. -/
def marksOf (held : Modifiers) : List Char :=
  (if held.ctrl then ['C', '-'] else []) ++
    ((if held.alt then ['A', '-'] else []) ++ if held.shift then ['S', '-'] else [])

/-- Characters that may stand in a name between angle brackets. -/
def isNameChar (c : Char) : Bool :=
  c != '<' && c != '>' && c != ' '

/-- A name between angle brackets, without marks, that is read as a key. -/
structure Names (name : List Char) (key : Key) : Prop where
  someChar : name ≠ []
  unmarked : ∀ held, readModifiers name held = (held, name)
  nameChars : name.all isNameChar = true
  notPause : waitMark.isPrefixOf name = false
  isKey : Key.ofName name = .ok key

theorem ofName_single (c : Char) : Key.ofName [c] = .ok (.char c) := by
  have longNames : ∀ entry ∈ Key.named, entry.1.toList.length ≠ 1 := by
    decide
  have notNamed : Key.named.lookup (String.ofList (Text.asciiUpper [c])) = none := by
    rw [List.lookup_eq_none_iff]
    intro entry isNamed
    rw [bne_iff_ne]
    intro isName
    apply longNames entry isNamed
    rw [← isName, String.toList_ofList]
    rfl
  have noNumber : Key.functionKey? [c] = none := by
    simp [Key.functionKey?, Text.unsigned?]
  rw [Key.ofName, notNamed, noNumber]

theorem names_single
    {c : Char}
    (nameChar : isNameChar c = true) :
    Names [c] (.char c) where
  someChar := List.cons_ne_nil c []
  unmarked _ := rfl
  nameChars := by
    rw [List.all_cons, nameChar, List.all_nil]
    rfl
  notPause := by
    simp [waitMark, List.isPrefixOf]
  isKey := ofName_single c

theorem names_function
    {number : Nat}
    (isNumber : 1 ≤ number ∧ number ≤ Key.functionKeyCount) :
    Names (Key.function number).name.toList (.function number) := by
  obtain ⟨fromOne, toLast⟩ := isNumber
  change number ≤ 24 at toLast
  interval_cases number
  all_goals exact ⟨by decide, fun _ => rfl, by decide, by decide, rfl⟩

/-- A key that types no character is read by its name. -/
theorem names_of_key
    {key : Key}
    (typesNone : ∀ c, key ≠ .char c)
    (notBackTab : key ≠ .backTab)
    (isNumber :
      ∀ number, key = .function number → 1 ≤ number ∧ number ≤ Key.functionKeyCount) :
    Names key.name.toList key := by
  cases key with
  | char c => exact absurd rfl (typesNone c)
  | backTab => exact absurd rfl notBackTab
  | function number => exact names_function (isNumber number rfl)
  | _ => exact ⟨by decide, fun _ => rfl, by decide, by decide, rfl⟩

/-! ## Reading a text -/

/-- What runs to an end ran its first part. -/
theorem exists_of_bind_eq_ok
    {ε α β : Type}
    {first : Except ε α}
    {next : α → Except ε β}
    {result : β}
    (runs : (first >>= next) = .ok result) :
    ∃ value, first = .ok value ∧ next value = .ok result := by
  cases first with
  | error reason =>
      contradiction
  | ok value =>
      exact ⟨value, rfl, runs⟩

/-- A name at the front is a pause or a press, and the text behind it is read on. -/
theorem readFrom_of_name
    {clock : Nat}
    {c : Char}
    {rest name behind : List Char}
    (found : bracketedName? (c :: rest) = some (name, behind)) :
    readFrom clock (c :: rest) =
      match pause? name with
      | some (.ok pause) => readFrom (clock + pause) behind
      | some (.error reason) => .error reason
      | none => do
          let event ← readName name
          let events ← readFrom (clock + step) behind
          return { event with time := clock + step } :: events := by
  rw [readFrom]
  split
  · rename_i other others isFound
    rw [found] at isFound
    cases isFound
    rfl
  · rename_i notFound
    rw [found] at notFound
    contradiction

/-- Without a name at the front, the first character is a press. -/
theorem readFrom_of_none
    {clock : Nat}
    {c : Char}
    {rest : List Char}
    (notFound : bracketedName? (c :: rest) = none) :
    readFrom clock (c :: rest) = do
      let events ← readFrom (clock + step) rest
      return pressOf c (clock + step) :: events := by
  rw [readFrom]
  split
  · rename_i found
    rw [notFound] at found
    contradiction
  · rfl

section Reading

variable {name : List Char} {key : Key} {clock : Nat}

theorem readModifiers_marksOf
    (names : Names name key)
    (held : Modifiers) :
    readModifiers (marksOf held ++ name) {} = (held, name) := by
  obtain ⟨first, rest, rfl⟩ := List.exists_cons_of_ne_nil names.someChar
  obtain ⟨shift, ctrl, alt⟩ := held
  cases shift <;> cases ctrl <;> cases alt <;>
    simp [marksOf, readModifiers, names.unmarked]

/-- A character with what is held; a capital holds shift. -/
theorem readName_char
    {c : Char}
    (names : Names name (.char c))
    (held : Modifiers) :
    readName (marksOf held ++ name) =
      .ok
        { key := .char c
          modifiers := { held with shift := held.shift || Text.isUppercase c } } := by
  rw [readName, readModifiers_marksOf names held]
  cases isUpper : Text.isUppercase c <;> simp [names.isKey, isUpper]

/-- A key that types no character reads as one that types none. -/
theorem exists_readName
    (names : Names name key)
    (typesNone : ∀ c, key ≠ .char c)
    (held : Modifiers) :
    ∃ back, readName (marksOf held ++ name) = .ok back ∧ ∀ c, back.key ≠ .char c := by
  rw [readName, readModifiers_marksOf names held]
  simp only [names.isKey]
  refine ⟨_, rfl, fun c => ?_⟩
  split
  · exact Key.noConfusion
  · exact typesNone c

theorem bracketedName?_of_nameChars
    (someChar : name ≠ [])
    (nameChars : name.all isNameChar = true)
    (behind : List Char) :
    bracketedName? ('<' :: (name ++ '>' :: behind)) = some (name, behind) := by
  rw [List.all_eq_true] at nameChars
  have upToBracket : (name ++ '>' :: behind).takeWhile (· != '>') = name := by
    have notClosing : ∀ c ∈ name, (c != '>') = true := by
      intro c isChar
      have nameChar := nameChars c isChar
      simp only [isNameChar, Bool.and_eq_true] at nameChar
      exact nameChar.1.2
    rw [List.takeWhile_append_of_pos notClosing]
    simp
  have noBracket : '<' ∉ name := fun isChar => absurd (nameChars '<' isChar) (by decide)
  have noSpace : ' ' ∉ name := fun isChar => absurd (nameChars ' ' isChar) (by decide)
  simp [bracketedName?, upToBracket, someChar, noBracket, noSpace]

theorem readFrom_bracketed
    (someChar : name ≠ [])
    (nameChars : name.all isNameChar = true)
    (notPause : waitMark.isPrefixOf name = false)
    (behind : List Char) :
    readFrom clock ('<' :: (name ++ '>' :: behind)) = do
      let event ← readName name
      let events ← readFrom (clock + step) behind
      return { event with time := clock + step } :: events := by
  rw [readFrom_of_name (bracketedName?_of_nameChars someChar nameChars behind), pause?,
    notPause]
  rfl

theorem readFrom_single (c : Char) :
    readFrom clock [c] = .ok [pressOf c (clock + step)] := by
  have noName : bracketedName? [c] = none := by
    unfold bracketedName?
    split
    · rename_i inside isCons
      cases isCons
      rfl
    · rfl
  rw [readFrom_of_none noName, readFrom]
  rfl

theorem marksOf_nameChars (held : Modifiers) :
    (marksOf held).all isNameChar = true := by
  obtain ⟨shift, ctrl, alt⟩ := held
  cases shift <;> cases ctrl <;> cases alt <;> decide

/-- Marks and a name begin no pause. -/
theorem marksOf_notPause
    (notPause : waitMark.isPrefixOf name = false)
    (held : Modifiers) :
    waitMark.isPrefixOf (marksOf held ++ name) = false := by
  obtain ⟨shift, ctrl, alt⟩ := held
  cases shift <;> cases ctrl <;> cases alt <;>
    first | exact notPause | rfl

/-- What is between angle brackets is read as the one press that its name is. -/
theorem read_bracketed
    (names : Names name key)
    (held : Modifiers)
    {event : KeyEvent}
    (isNamed : readName (marksOf held ++ name) = .ok event) :
    read ('<' :: ((marksOf held ++ name) ++ ['>'])) = .ok [{ event with time := step }] := by
  have nameChars : (marksOf held ++ name).all isNameChar = true := by
    rw [List.all_append, marksOf_nameChars, names.nameChars]
    rfl
  rw [read, readFrom_bracketed (List.append_ne_nil_of_right_ne_nil _ names.someChar)
    nameChars (marksOf_notPause names.notPause held), isNamed, readFrom]
  rfl

end Reading

/-! ## What is read -/

/-- What holds of each press that was read. -/
structure IsRead (event : KeyEvent) : Prop where
  capital :
    ∀ c, event.key = .char c → Text.isUppercase c = true → event.modifiers.shift = true
  number :
    ∀ number, event.key = .function number → 1 ≤ number ∧ number ≤ Key.functionKeyCount

theorem number_of_ofName
    {name : List Char}
    {number : Nat}
    (isKey : Key.ofName name = .ok (.function number)) :
    1 ≤ number ∧ number ≤ Key.functionKeyCount := by
  have noneNamed : ∀ entry ∈ Key.named, entry.2 ≠ .function number := by
    simp [Key.named]
  unfold Key.ofName at isKey
  split at isKey
  · rename_i key isNamed
    obtain ⟨_, _, isEntry, -⟩ := List.lookup_eq_some_iff.mp isNamed
    cases isKey
    exact absurd rfl (noneNamed _ (isEntry ▸ List.mem_append_right _ List.mem_cons_self))
  · split at isKey
    · rename_i key isFunction
      cases isKey
      unfold Key.functionKey? at isFunction
      grind
    · split at isKey <;> cases isKey

theorem isRead_of_readName
    {name : List Char}
    {event : KeyEvent}
    (isNamed : readName name = .ok event) :
    IsRead event := by
  obtain ⟨key, isKey, isPress⟩ := exists_of_bind_eq_ok isNamed
  cases isPress
  constructor
  · intro c isChar isUpper
    simp only at isChar ⊢
    rw [isChar]
    simp [isUpper]
  · intro number isFunction
    simp only at isFunction
    split at isFunction
    · contradiction
    · rw [isFunction] at isKey
      exact number_of_ofName isKey

theorem isRead_pressOf (c : Char) (time : Nat) : IsRead (pressOf c time) := by
  unfold pressOf
  split
  · exact ⟨nofun, nofun⟩
  · split
    · exact ⟨nofun, nofun⟩
    · refine ⟨fun other isChar isUpper => ?_, nofun⟩
      cases isChar
      exact isUpper

/-- Each press of a text is that of a name or of a character, at whatever place it is read. -/
theorem isRead_of_mem
    {clock : Nat}
    {text : List Char}
    {events : List KeyEvent}
    (reads : readFrom clock text = .ok events) :
    ∀ event ∈ events, IsRead event := by
  induction clock, text using readFrom.induct generalizing events with
  | case1 clock =>
      rw [readFrom] at reads
      cases reads
      exact List.forall_mem_nil _
  | case2 clock c rest name behind pause isPause found inductionHypothesis =>
      rw [readFrom_of_name found, isPause] at reads
      exact inductionHypothesis reads
  | case3 clock c rest name behind reason isPause found =>
      rw [readFrom_of_name found, isPause] at reads
      contradiction
  | case4 clock c rest name behind notPause found inductionHypothesis =>
      rw [readFrom_of_name found, notPause] at reads
      obtain ⟨event, isNamed, reads⟩ := exists_of_bind_eq_ok reads
      obtain ⟨others, readsBehind, isEvents⟩ := exists_of_bind_eq_ok reads
      cases isEvents
      have isRead := isRead_of_readName isNamed
      exact List.forall_mem_cons.mpr
        ⟨⟨isRead.capital, isRead.number⟩, inductionHypothesis readsBehind⟩
  | case5 clock c rest notFound inductionHypothesis =>
      rw [readFrom_of_none notFound] at reads
      obtain ⟨others, readsBehind, isEvents⟩ := exists_of_bind_eq_ok reads
      cases isEvents
      exact List.forall_mem_cons.mpr ⟨isRead_pressOf c _, inductionHypothesis readsBehind⟩

end KeyNotation

end ChordEditor
