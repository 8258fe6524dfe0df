import UrclDebugger.Screen.Basic
import UrclDebugger.Text.Blank
import UrclDebugger.Text.Grapheme
import UrclDebugger.Text.Lines
import UrclDebugger.Text.Width

/-!
# Lines of styled text

A line is a sequence of spans, each a text in one style. A line is drawn cluster by cluster up to
the first cluster that does not fit. Line feeds are not drawn. A cluster without width joins the
symbol before it.
-/

namespace UrclDebugger

/-- A text in one style. -/
structure Span where
  text : String
  style : Style := {}
  deriving DecidableEq, Repr, Inhabited

/-- Where a line stands in the width it has. -/
inductive Alignment where
  | left
  | center
  | right
  deriving DecidableEq, Repr, Inhabited

/-- Spans one after the other. -/
structure Line where
  spans : List Span
  alignment : Alignment := .left
  deriving DecidableEq, Repr, Inhabited

/-- One cluster of a text and how it looks. -/
structure Glyph where
  symbol : String
  style : Style
  deriving DecidableEq, Repr, Inhabited

namespace Glyph

/-- The number of columns that the cluster takes. -/
def width (glyph : Glyph) : Nat := Text.width glyph.symbol

/-- Whether a line may be broken here: at blanks other than the no-break space, and at the
zero-width space. -/
def isBlank (glyph : Glyph) : Bool :=
  glyph.symbol == "\u200b" ||
    (glyph.symbol.toList.all Text.isBlank && glyph.symbol != "\u00a0")

end Glyph

namespace Span

/-- The number of columns that the text takes. -/
def width (span : Span) : Nat := Text.width span.text

/-- The clusters that are drawn. -/
def glyphs (span : Span) : List Glyph :=
  ((Text.clusters span.text).filter (· ≠ "\n")).map fun symbol => ⟨symbol, span.style⟩

end Span

namespace Line

/-- A line in one style. -/
def single (text : String) (style : Style) : Line := ⟨[⟨text, style⟩], .left⟩

/-- The lines of a text after one another in one line. -/
def ofLines (text : String) : Line :=
  ⟨(Text.lines text.toList).map fun line => ⟨String.ofList line, {}⟩, .left⟩

/-- The number of columns that the line takes. -/
def width (line : Line) : Nat := line.spans.foldr (fun span rest => span.width + rest) 0

/-- The clusters that are drawn. -/
def glyphs (line : Line) : List Glyph := line.spans.flatMap Span.glyphs

end Line

namespace Screen

/-- Draws clusters from column `x` on in an area whose left column is `start`. The first cluster of
a text takes its cell, whatever its width. -/
def drawGlyphs (screen : Screen) (area : Area) (first : Bool) (x : Nat) : List Glyph → Screen
  | [] => screen
  | glyph :: rest =>
    let next := x + glyph.width
    if area.right < next then screen
    else
      let drawn :=
        if first then screen.put x area.y glyph.symbol glyph.style
        else if x = area.x then screen.append x area.y glyph.symbol glyph.style
        else if glyph.width = 0 then screen.append (x - 1) area.y glyph.symbol glyph.style
        else screen.put x area.y glyph.symbol glyph.style
      let covered := drawn.modifyRow (x + 1) area.y (fun _ => {}) (glyph.width - 1)
      covered.drawGlyphs area false next rest

/-- Draws spans one after the other. -/
def drawSpans (screen : Screen) (area : Area) : List Span → Screen
  | [] => screen
  | span :: rest =>
    if span.width = 0 then screen.drawSpans area rest
    else if area.isEmpty then screen
    else
      (screen.drawGlyphs area true area.x span.glyphs).drawSpans (area.dropLeft span.width) rest

/-- Draws a line from the left of an area's first row. -/
def drawLine (screen : Screen) (area : Area) (line : Line) : Screen :=
  let area := (area.row 0).intersect screen.area
  if area.isEmpty then screen else screen.drawSpans area line.spans

end Screen

end UrclDebugger
