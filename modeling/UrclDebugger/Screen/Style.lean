/-!
# Styles

A style says how text looks: its colour, the colour behind it, and whether it is bold. What a
style leaves open stays as it was where the text is written.
-/

namespace UrclDebugger

/-- A colour. -/
inductive Color where
  | rgb (red green blue : UInt8)
  | black
  deriving DecidableEq, Repr

/-- How text looks, as far as it is said. -/
structure Style where
  foreground : Option Color := none
  background : Option Color := none
  /-- Whether text is made bold; otherwise it stays as it was. -/
  bold : Bool := false
  deriving DecidableEq, Repr, Inhabited

namespace Style

/-- The style that changes nothing. -/
def plain : Style := {}

/-- The style that colours text. -/
def colored (color : Color) : Style := { foreground := some color }

/-- The style in bold. -/
def inBold (style : Style) : Style := { style with bold := true }

/-- The style with a colour behind the text. -/
def withBackground (style : Style) (color : Color) : Style :=
  { style with background := some color }

/-- A style with what another one says put over it. -/
def patch (style other : Style) : Style where
  foreground := other.foreground.or style.foreground
  background := other.background.or style.background
  bold := style.bold || other.bold

end Style

end UrclDebugger
