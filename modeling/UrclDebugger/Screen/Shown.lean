import UrclDebugger.Screen.Basic
import UrclDebugger.Text.Width

/-!
# What is seen of a screen

A screen is shown over the one before it by writing the cells that have changed. A cell under the
right part of a wide symbol is not written, so what was seen there before is kept. Cells that a wide
symbol covers, now or before, are written although they are the same.
-/

namespace UrclDebugger

/-- The number of cells that a symbol covers behind its own. -/
def Cell.covered (cell : Cell) : Nat := Text.width cell.symbol - 1

namespace Screen

/-- The cells seen after cells have been drawn over others, of which `seen` were seen. The next
`covered` cells lie under a symbol, and the next `stale` have to be written in any case. -/
def refresh (covered stale : Nat) : List Cell → List Cell → List Cell → List Cell
  | drawn :: drawnRest, before :: beforeRest, seen :: seenRest =>
    let writes := covered = 0 && (drawn ≠ before || 0 < stale)
    (if writes then drawn else seen) ::
      refresh drawn.covered (max (max drawn.covered before.covered) (stale - 1))
        drawnRest beforeRest seenRest
  | _, _, seen => seen

/-- Cells of symbols that cover no others are all seen. -/
theorem refresh_of_covered_eq_zero {drawn before : List Cell}
    (narrow : ∀ cell ∈ drawn, cell.covered = 0) (narrowBefore : ∀ cell ∈ before, cell.covered = 0)
    (sameLength : drawn.length = before.length) : refresh 0 0 drawn before before = drawn := by
  induction drawn generalizing before with
  | nil =>
    cases before with
    | nil => rfl
    | cons _ _ => simp at sameLength
  | cons cell rest ih =>
    cases before with
    | nil => simp at sameLength
    | cons other others =>
      have noneCovered : cell.covered = 0 := narrow cell (by simp)
      have noneStale : other.covered = 0 := narrowBefore other (by simp)
      have behind : refresh 0 0 rest others others = rest :=
        ih (fun cell inRest => narrow cell (by simp [inRest]))
          (fun cell inRest => narrowBefore cell (by simp [inRest])) (by simpa using sameLength)
      by_cases same : cell = other
      · simp [refresh, same, noneStale, behind]
      · simp [refresh, same, noneCovered, noneStale, behind]

end Screen

/-- A screen that has been drawn and what is seen of it. -/
structure ShownScreen where
  drawn : Screen
  seen : Screen
  deriving Inhabited

namespace ShownScreen

/-- A blank screen. -/
def blank (width height : Nat) : ShownScreen :=
  ⟨Screen.blank width height, Screen.blank width height⟩

/-- What is shown after another screen of the same size has been drawn. -/
def update (shown : ShownScreen) (screen : Screen) : ShownScreen where
  drawn := screen
  seen :=
    { screen with
      cells := (Screen.refresh 0 0 screen.cells.toList shown.drawn.cells.toList
        shown.seen.cells.toList).toArray }

end ShownScreen

end UrclDebugger
