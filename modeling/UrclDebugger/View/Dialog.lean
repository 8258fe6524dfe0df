import UrclDebugger.Screen.Box
import UrclDebugger.Screen.Paragraph
import UrclDebugger.View.Theme

/-!
# Dialogs

A dialog stands in the middle of the screen over whatever is there: a title, lines of text that
are wrapped, and the keys that answer it.
-/

namespace UrclDebugger.View

/-- What a dialog shows. -/
structure Dialog where
  title : String
  body : List String
  /-- Keys and what they do. -/
  hints : List (String × String)
  isError : Bool := false
  deriving DecidableEq, Repr, Inhabited

namespace Dialog

/-- The colour of a dialog's border and keys. -/
def accent (dialog : Dialog) : Color :=
  if dialog.isError then Theme.error else Theme.focusedBorder

/-- The area of a dialog on a screen: three fifths of its width, and rows for the body, an empty
line, the keys and the border. -/
def areaOn (dialog : Dialog) (screen : Area) : Area :=
  (screen.middleRows (dialog.body.length + 4)).columns 20 80

/-- The line with the keys. -/
def hintLine (dialog : Dialog) : Line where
  spans := dialog.hints.flatMap fun (key, action) =>
    [⟨" " ++ key ++ " ", (Style.colored .black).withBackground dialog.accent⟩,
      ⟨" " ++ action ++ "  ", Style.colored Theme.comment⟩]
  alignment := .center

/-- The lines inside the border. -/
def lines (dialog : Dialog) : List Line :=
  dialog.body.map (Line.single · (Style.colored Theme.text)) ++ [⟨[], .left⟩, dialog.hintLine]

/-- Draws a dialog. -/
def draw (screen : Screen) (dialog : Dialog) : Screen :=
  let area := dialog.areaOn screen.area
  ((screen.clear area).drawBox area (" " ++ dialog.title ++ " ")
    (Style.colored dialog.accent).inBold).drawWrapped area.inner dialog.lines

end Dialog

end UrclDebugger.View
