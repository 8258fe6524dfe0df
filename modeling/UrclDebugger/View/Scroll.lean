/-!
# Scrolling

A pane shows a window of its rows. The window starts at an offset that moves only as far as it must:
to show a row that is followed, and back so that no room is left empty while there are rows to show.
-/

namespace UrclDebugger.Scroll

/-- The number of rows that a pane of the given height shows between its borders, at least one. -/
def windowHeight (paneHeight : Nat) : Nat := max (paneHeight - 2) 1

/-- The offset at which a window of the given height shows a row, moved as little as possible. -/
def toward (height offset row : Nat) : Nat :=
  if row < offset then row
  else if offset + height ≤ row then row + 1 - height
  else offset

/-- The offset that leaves no room empty while there are rows to show. -/
def clamp (count height offset : Nat) : Nat :=
  if height < count then min offset (count - height) else 0

/-- An offset is brought back to the last one that leaves no room empty, if it lies behind it. -/
theorem clamp_eq_min (count height offset : Nat) :
    clamp count height offset = min offset (count - height) := by
  unfold clamp
  split <;> omega

/-- A row is shown from an offset moved toward it. -/
theorem toward_shows {height : Nat} (room : 0 < height) (offset row : Nat) :
    toward height offset row ≤ row ∧ row < toward height offset row + height := by
  unfold toward
  split <;> try split
  all_goals omega

/-- The new offset of a pane. -/
def adjust (count paneHeight offset : Nat) (followed : Option Nat) : Nat :=
  let height := windowHeight paneHeight
  let moved :=
    match followed with
    | some row => toward height offset row
    | none => offset
  clamp count height moved

/-- The rows shown from an offset on. -/
def visible {α : Type} (rows : List α) (paneHeight offset : Nat) : List α :=
  (rows.drop offset).take (windowHeight paneHeight)

end UrclDebugger.Scroll
