import UrclDebugger.Screen.Shown

/-!
# Screens on a terminal

A screen is written to a terminal as text with control sequences between: one that moves to the left
upper corner, and one wherever the look of a cell differs from that of the cell before it. A cell
that lies under the right half of a wide symbol is not written.
-/

namespace UrclDebugger

/-- The colour as a parameter of a control sequence; `ground` is `3` for text and `4` for what is
behind it. -/
def Color.parameter (ground : String) : Color → String
  | .rgb red green blue =>
    ";" ++ ground ++ "8;2;" ++ toString red.toNat ++ ";" ++ toString green.toNat ++ ";" ++
      toString blue.toNat
  | .black => ";" ++ ground ++ "0"

/-- The control sequence that makes text look as the style says, and otherwise as it does by
default. -/
def Style.sequence (style : Style) : String :=
  "\x1b[0" ++ (if style.bold then ";1" else "") ++
    (style.foreground.map (Color.parameter "3")).getD "" ++
    (style.background.map (Color.parameter "4")).getD "" ++ "m"

namespace Screen

/-- The text `written` followed by cells. The cell before them looks as `look` says, and the next
`covered` of them lie under a symbol. -/
def paintCells (written : String) (look : Option Style) (covered : Nat) : List Cell → String
  | [] => written
  | cell :: rest =>
    match covered with
    | covered + 1 => paintCells written look covered rest
    | 0 =>
      let sequence := if look = some cell.style then "" else cell.style.sequence
      paintCells (written ++ sequence ++ cell.symbol) (some cell.style) cell.covered rest

/-- The text that shows the screen. -/
def paint (screen : Screen) : String :=
  "\x1b[H" ++ "\r\n".intercalate (screen.rows.map (paintCells "" none 0)) ++ "\x1b[0m"

end Screen

namespace Terminal

/-- Opens a screen of its own, without a cursor. -/
def enter : String := "\x1b[?1049h\x1b[?25l\x1b[2J"

/-- Goes back to the screen that was there before. -/
def leave : String := "\x1b[0m\x1b[?25h\x1b[?1049l"

end Terminal

end UrclDebugger
