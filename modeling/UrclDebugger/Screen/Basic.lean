import UrclDebugger.Screen.Area
import UrclDebugger.Screen.Style

/-!
# Screens

A screen is a grid of cells. A cell holds the symbol drawn in it and how it looks. A symbol that is
two columns wide stands in the left one of its cells and the other is blank. Drawing outside the
screen does nothing.
-/

namespace UrclDebugger

/-- A place for one symbol. -/
structure Cell where
  symbol : String := " "
  style : Style := {}
  deriving DecidableEq, Repr, Inhabited

/-- A grid of cells, row after row. -/
structure Screen where
  width : Nat
  height : Nat
  cells : Array Cell
  deriving DecidableEq, Repr, Inhabited

namespace Screen

/-- A screen of blank cells. -/
def blank (width height : Nat) : Screen := ⟨width, height, Array.replicate (width * height) {}⟩

/-- The area that the screen covers. -/
def area (screen : Screen) : Area := ⟨0, 0, screen.width, screen.height⟩

/-- Changes one cell. -/
def modify (screen : Screen) (x y : Nat) (change : Cell → Cell) : Screen :=
  if x < screen.width ∧ y < screen.height then
    { screen with cells := screen.cells.modify (y * screen.width + x) change }
  else screen

/-- Changes the cells of a row from a column on. -/
def modifyRow (screen : Screen) (x y : Nat) (change : Cell → Cell) : Nat → Screen
  | 0 => screen
  | count + 1 => (screen.modify x y change).modifyRow (x + 1) y change count

/-- Changes the cells of rows from a row on. -/
def modifyRows (screen : Screen) (x y width : Nat) (change : Cell → Cell) : Nat → Screen
  | 0 => screen
  | count + 1 => (screen.modifyRow x y change width).modifyRows x (y + 1) width change count

/-- Changes every cell of an area. -/
def modifyArea (screen : Screen) (area : Area) (change : Cell → Cell) : Screen :=
  screen.modifyRows area.x area.y area.width change area.height

/-- Puts a style over every cell of an area. -/
def restyle (screen : Screen) (area : Area) (style : Style) : Screen :=
  screen.modifyArea area fun cell => { cell with style := cell.style.patch style }

/-- Makes every cell of an area blank. -/
def clear (screen : Screen) (area : Area) : Screen :=
  screen.modifyArea area fun _ => {}

/-- Draws a symbol in a cell. -/
def put (screen : Screen) (x y : Nat) (symbol : String) (style : Style) : Screen :=
  screen.modify x y fun cell => ⟨symbol, cell.style.patch style⟩

/-- Adds a symbol without width to the one in a cell. -/
def append (screen : Screen) (x y : Nat) (symbol : String) (style : Style) : Screen :=
  screen.modify x y fun cell => ⟨cell.symbol ++ symbol, cell.style.patch style⟩

/-- The cells of a row. -/
def row (screen : Screen) (y : Nat) : List Cell :=
  (screen.cells.extract (y * screen.width) ((y + 1) * screen.width)).toList

/-- The rows of the screen. -/
def rows (screen : Screen) : List (List Cell) := (List.range screen.height).map screen.row

end Screen

end UrclDebugger
