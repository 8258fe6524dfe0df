import UrclDebugger.Screen.Box
import UrclDebugger.View.Scroll
import UrclDebugger.View.Theme

/-!
# Panes

A pane is a box with a list of rows in it. The pane that has the focus has a border of its own.
-/

namespace UrclDebugger.Pane

/-- A row of a pane; its style also covers the room behind the line. -/
structure Row where
  line : Line
  style : Style := Style.plain
  deriving DecidableEq, Repr, Inhabited

/-- The rows of a pane by their index, and the row that the pane shows if it follows one. -/
structure Content where
  title : String
  count : Nat
  row : Nat → Row
  followed : Option Nat := none

/-- A row that stands for the absence of others. -/
def note (text : String) : Row := ⟨Line.single text Style.plain, Style.colored Theme.comment⟩

/-- The look of a pane's border. -/
def borderStyle (focused : Bool) : Style :=
  if focused then (Style.colored Theme.focusedBorder).inBold else Style.colored Theme.border

/-- Draws rows from the top of an area. -/
def drawRows (screen : Screen) (area : Area) : List Row → Screen
  | [] => screen
  | row :: rest =>
    if area.isEmpty then screen
    else
      let here := area.row 0
      let below := { area with y := area.y + 1, height := area.height - 1 }
      drawRows ((screen.restyle here row.style).drawLine here row.line) below rest

/-- Draws a box with rows in it. -/
def drawList (screen : Screen) (area : Area) (title : String) (focused : Bool)
    (rows : List Row) : Screen :=
  drawRows (screen.drawBox area title (borderStyle focused)) area.inner rows

/-- Draws the part of a pane's content that its window shows, and gives the window's new offset. -/
def draw (screen : Screen) (area : Area) (focused follow : Bool) (offset : Nat)
    (content : Content) : Screen × Nat :=
  let followed := if follow then content.followed else none
  let moved := Scroll.adjust content.count area.height offset followed
  let shown := Scroll.visible (List.range content.count) area.height moved
  (drawList screen area content.title focused (shown.map content.row), moved)

/-- A text filled up with spaces on its right. -/
def padRight (width : Nat) (text : String) : String :=
  text ++ String.ofList (List.replicate (width - text.length) ' ')

/-- A text filled up with spaces on its left. -/
def padLeft (width : Nat) (text : String) : String :=
  String.ofList (List.replicate (width - text.length) ' ') ++ text

end UrclDebugger.Pane
