/-!
# Areas

An area is a rectangle of screen cells. Areas are cut into columns and rows by percentages; a
border between two parts lies at the nearest cell, a half going to the next one.
-/

namespace UrclDebugger

/-- A rectangle of cells: its left upper corner and its size. -/
structure Area where
  x : Nat
  y : Nat
  width : Nat
  height : Nat
  deriving DecidableEq, Repr, Inhabited

namespace Area

/-- Whether the area has no cell. -/
def isEmpty (area : Area) : Bool := area.width == 0 || area.height == 0

/-- The column behind the last one. -/
def right (area : Area) : Nat := area.x + area.width

/-- The row behind the last one. -/
def bottom (area : Area) : Nat := area.y + area.height

/-- The part of an area that lies in another one. -/
def intersect (area other : Area) : Area :=
  let x := max area.x other.x
  let y := max area.y other.y
  ⟨x, y, min area.right other.right - x, min area.bottom other.bottom - y⟩

/-- The area without its outermost cells. -/
def inner (area : Area) : Area :=
  ⟨min (area.x + 1) area.right, min (area.y + 1) area.bottom, area.width - 2, area.height - 2⟩

/-- The area without some columns at its left. -/
def dropLeft (area : Area) (columns : Nat) : Area :=
  { area with x := area.x + min columns area.width, width := area.width - columns }

/-- One row of the area. -/
def row (area : Area) (index : Nat) : Area :=
  { area with y := area.y + index, height := if index < area.height then 1 else 0 }

/-- The cell border nearest to a part of a length given in percent. -/
def percent (part length : Nat) : Nat := (length * part + 50) / 100

/-- Columns from one percentage of the width to another. -/
def columns (area : Area) (first last : Nat) : Area :=
  let start := percent first area.width
  { area with x := area.x + start, width := percent last area.width - start }

/-- Rows from one percentage of the height to another. -/
def rows (area : Area) (first last : Nat) : Area :=
  let start := percent first area.height
  { area with y := area.y + start, height := percent last area.height - start }

/-- Rows in the middle of the area, as many as it has of those asked for. -/
def middleRows (area : Area) (height : Nat) : Area :=
  let height := min height area.height
  { area with y := area.y + (area.height - height + 1) / 2, height := height }

end Area

end UrclDebugger
