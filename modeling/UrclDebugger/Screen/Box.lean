import UrclDebugger.Screen.Line

/-!
# Boxes

A box is a border around an area with a title in its upper side.
-/

namespace UrclDebugger.Screen

/-- Draws the border of an area: its four sides, then its corners. -/
def drawBorder (screen : Screen) (area : Area) (style : Style) : Screen :=
  let left := area.x
  let right := area.right - 1
  let top := area.y
  let bottom := area.bottom - 1
  let side (symbol : String) (cell : Cell) : Cell := ⟨symbol, cell.style.patch style⟩
  screen
    |>.modifyRows left top 1 (side "│") area.height
    |>.modifyRow left top (side "─") area.width
    |>.modifyRows right top 1 (side "│") area.height
    |>.modifyRow left bottom (side "─") area.width
    |>.put right bottom "┘" style
    |>.put right top "┐" style
    |>.put left bottom "└" style
    |>.put left top "┌" style

/-- Draws a border and a title in as many columns as it takes. The title looks like the border
unless it says otherwise. -/
def drawBox (screen : Screen) (area : Area) (title : String) (style : Style) : Screen :=
  let area := area.intersect screen.area
  if area.isEmpty then screen
  else
    let line := Line.ofLines title
    let room : Area := ⟨area.x + 1, area.y, min line.width (area.width - 2), 1⟩
    (screen.drawBorder area style).drawLine room line

end UrclDebugger.Screen
