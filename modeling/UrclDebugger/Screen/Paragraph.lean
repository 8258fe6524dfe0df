import UrclDebugger.Screen.Wrap

/-!
# Paragraphs

A paragraph draws lines from the top of an area, each at its alignment. Lines that are too wide
are cut or wrapped; rows that do not fit below are left out.
-/

namespace UrclDebugger.Screen

/-- Draws the clusters of a row that take columns. -/
def drawRowGlyphs (screen : Screen) (x y : Nat) : List Glyph → Screen
  | [] => screen
  | glyph :: rest =>
    if glyph.width = 0 then screen.drawRowGlyphs x y rest
    else (screen.put x y glyph.symbol glyph.style).drawRowGlyphs (x + glyph.width) y rest

/-- The column of an area in which a row of the given width starts. -/
def indent (alignment : Alignment) (room width : Nat) : Nat :=
  match alignment with
  | .left => 0
  | .center => room / 2 - width / 2
  | .right => room - width

/-- Draws rows from the top of an area. -/
def drawRows (screen : Screen) (area : Area) : List (List Glyph × Alignment) → Screen
  | [] => screen
  | (glyphs, alignment) :: rest =>
    if area.isEmpty then screen
    else
      let x := area.x + indent alignment area.width (Wrap.widthOf glyphs)
      let below := { area with y := area.y + 1, height := area.height - 1 }
      (screen.drawRowGlyphs x area.y glyphs).drawRows below rest

/-- Draws lines, cutting those that are too wide. -/
def drawTruncated (screen : Screen) (area : Area) (lines : List Line) : Screen :=
  screen.drawRows area
    (lines.map fun line => (Wrap.truncate area.width 0 line.glyphs, line.alignment))

/-- Draws lines, wrapping those that are too wide. -/
def drawWrapped (screen : Screen) (area : Area) (lines : List Line) : Screen :=
  screen.drawRows area
    (lines.flatMap fun line =>
      (Wrap.wrap area.width line.glyphs).map fun glyphs => (glyphs, line.alignment))

end UrclDebugger.Screen
