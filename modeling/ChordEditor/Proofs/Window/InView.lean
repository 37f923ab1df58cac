import ChordEditor.Proofs.Buffer.LineOrder
import ChordEditor.Window

namespace ChordEditor.Window

/-!
# What is in view

Showing and centering bring the line of the cursor into view and move the cursor not at
all.  A move takes the cursor to where its motion arrives (`moveCursor_cursor`) and then
shows it.  Scrolling goes the other way: it pulls the cursor along where its line would be
left outside of the view, and drops the selection with that.
-/

/-- Whether the line of the cursor is one of those in view. -/
def InView (window : Window) (buffer : Buffer) : Prop :=
  window.scroll ≤ window.line buffer ∧
    window.line buffer < window.scroll + window.height

instance (window : Window) (buffer : Buffer) : Decidable (window.InView buffer) :=
  inferInstanceAs (Decidable (_ ∧ _))

section Shown

variable (window : Window) (buffer : Buffer)

/-- Showing the cursor does not move it. -/
@[simp]
theorem showCursor_cursor : (window.showCursor buffer).cursor = window.cursor := by
  unfold showCursor
  dsimp only
  split
  · rfl
  · split <;> rfl

@[simp]
theorem showCursor_preferredColumn :
    (window.showCursor buffer).preferredColumn = window.preferredColumn := by
  unfold showCursor
  dsimp only
  split
  · rfl
  · split <;> rfl

@[simp]
theorem showCursor_height : (window.showCursor buffer).height = window.height := by
  unfold showCursor
  dsimp only
  split
  · rfl
  · split <;> rfl

variable {window}

theorem showCursor_inView
    (someHeight : 0 < window.height) :
    (window.showCursor buffer).InView buffer := by
  unfold InView line showCursor
  dsimp only
  by_cases isAbove : window.line buffer < window.scroll
  · rw [if_pos isAbove]
    dsimp only [line] at isAbove ⊢
    omega
  · rw [if_neg isAbove]
    by_cases isBelow : window.line buffer ≥ window.scroll + window.height
    · rw [if_pos isBelow]
      dsimp only [line] at isAbove isBelow ⊢
      omega
    · rw [if_neg isBelow]
      dsimp only [line] at isAbove isBelow ⊢
      omega

theorem centerOnCursor_inView
    (someHeight : 0 < window.height) :
    (window.centerOnCursor buffer).InView buffer := by
  unfold InView line centerOnCursor
  dsimp only [line]
  omega

end Shown

/-- The column that a motion keeps: the preferred one, else that of the cursor. -/
def keptColumn?
    (window : Window)
    (buffer : Buffer)
    (motion : Motion) : Option Nat :=
  if motion.isVertical then
    some (window.preferredColumn.getD (window.column buffer))
  else
    none

section Moved

variable
  {window : Window}
  {buffer : Buffer}
  {motion : Motion}
  {args : MotionArgs}
  {extend : Bool}

theorem moveCursor_cursor :
    (window.moveCursor buffer motion args extend).cursor =
      window.cursor.moveTo
        (motion.target buffer window.cursor.position
          { args with column := window.keptColumn? buffer motion })
        extend := by
  unfold moveCursor
  rw [showCursor_cursor]
  rfl

theorem moveCursor_preferredColumn :
    (window.moveCursor buffer motion args extend).preferredColumn =
      window.keptColumn? buffer motion := by
  unfold moveCursor
  rw [showCursor_preferredColumn]
  rfl

end Moved

section Scrolled

variable (window : Window) (buffer : Buffer) (lines : Int)

/-- The first line in view after scrolling. -/
def scrolledTo : Nat :=
  min (window.scroll + lines).toNat (buffer.lineCount - 1)

/--
The place to which scrolling pulls the cursor: its column on the nearest line in view,
if its own line would be out of view.
-/
def pulledTo? : Option Nat :=
  let scrolled := { window with scroll := window.scrolledTo buffer lines }
  if scrolled.InView buffer then
    none
  else
    let nearest :=
      if window.line buffer < scrolled.scroll then
        scrolled.scroll
      else
        scrolled.scroll + window.height - 1
    some (buffer.offsetAt nearest (window.column buffer))

variable {window}

/-- Scrolling leaves the cursor, or puts it without a selection where it is pulled to. -/
theorem scrollBy_cursor
    (someHeight : 0 < window.height) :
    (window.scrollBy buffer lines).cursor =
      ((window.pulledTo? buffer lines).map Cursor.atPlace).getD window.cursor := by
  have clampedLine :
      min (max (window.line buffer) (window.scrolledTo buffer lines))
          (window.scrolledTo buffer lines + window.height - 1) =
        if window.line buffer < window.scrolledTo buffer lines then
          window.scrolledTo buffer lines
        else if window.line buffer < window.scrolledTo buffer lines + window.height then
          window.line buffer
        else
          window.scrolledTo buffer lines + window.height - 1 := by
    split
    · omega
    · split <;> omega
  unfold scrollBy pulledTo?
  dsimp only
  rw [show min (window.scroll + lines).toNat (buffer.lineCount - 1) =
    window.scrolledTo buffer lines from rfl, clampedLine]
  by_cases isAbove : window.line buffer < window.scrolledTo buffer lines
  · have outOfView :
        ¬ { window with scroll := window.scrolledTo buffer lines }.InView buffer := by
      intro inView
      exact Nat.not_lt_of_le inView.1 isAbove
    rw [if_pos isAbove, if_neg (Nat.ne_of_gt isAbove), if_neg outOfView, if_pos isAbove]
    rfl
  · by_cases inside : window.line buffer < window.scrolledTo buffer lines + window.height
    · have inView :
          { window with scroll := window.scrolledTo buffer lines }.InView buffer :=
        ⟨Nat.le_of_not_lt isAbove, inside⟩
      rw [if_neg isAbove, if_pos inside, if_pos rfl, if_pos inView]
      rfl
    · have outOfView :
          ¬ { window with scroll := window.scrolledTo buffer lines }.InView buffer :=
        fun inView => inside inView.2
      rw [if_neg isAbove, if_neg inside, if_neg (by omega), if_neg outOfView,
        if_neg isAbove]
      rfl

end Scrolled

end ChordEditor.Window
