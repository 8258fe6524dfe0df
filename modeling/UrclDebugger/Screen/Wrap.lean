import UrclDebugger.Screen.Line

/-!
# Breaking lines

A line that is wider than the room it has is either cut at its right end or wrapped. Wrapping
breaks before the word that does not fit, drops the blanks that the break takes the place of, and
cuts a word that fills more than a whole row. Blanks at the start of a line stay.
-/

namespace UrclDebugger.Wrap

/-- The width of clusters together. -/
def widthOf : List Glyph → Nat
  | [] => 0
  | glyph :: rest => glyph.width + widthOf rest

/-- The clusters that fit a width; those wider than the whole width are left out. -/
def truncate (limit used : Nat) : List Glyph → List Glyph
  | [] => []
  | glyph :: rest =>
    if limit < glyph.width then truncate limit used rest
    else if limit < used + glyph.width then []
    else glyph :: truncate limit (used + glyph.width) rest

/-- The state of wrapping between two clusters. -/
structure State where
  /-- Finished rows. -/
  rows : List (List Glyph) := []
  /-- Clusters that are sure to stand in the present row. -/
  row : List Glyph := []
  /-- Blanks after them. -/
  blanks : List Glyph := []
  /-- The word after the blanks. -/
  word : List Glyph := []
  /-- Whether the last cluster was part of a word. -/
  inWord : Bool := false

namespace State

/-- The state with blanks and word taken into the row. -/
def commit (state : State) : State :=
  { state with row := state.row ++ state.blanks ++ state.word, blanks := [], word := [] }

/-- Blanks that are left when those filling up a row of the given remaining width are dropped. -/
def dropFilling (remaining : Nat) : List Glyph → List Glyph
  | [] => []
  | glyph :: rest =>
    if remaining < glyph.width then glyph :: rest
    else dropFilling (remaining - glyph.width) rest

/-- The state with the row finished. -/
def breakRow (limit : Nat) (state : State) : State :=
  { state with
    rows := state.rows ++ [state.row]
    row := []
    blanks := dropFilling (limit - widthOf state.row) state.blanks }

/-- The state with a cluster behind the blanks or the word. -/
def add (state : State) (glyph : Glyph) : State :=
  if glyph.isBlank then { state with blanks := state.blanks ++ [glyph], inWord := false }
  else { state with word := state.word ++ [glyph], inWord := true }

/-- The state after one more cluster of a line. -/
def step (limit : Nat) (state : State) (glyph : Glyph) : State :=
  if limit < glyph.width then state
  else
    let wordEnds := state.inWord && glyph.isBlank
    let overflows :=
      state.row.isEmpty && limit < widthOf state.word + widthOf state.blanks + glyph.width
    let state := if wordEnds || overflows then state.commit else state
    let full := limit ≤ widthOf state.row
    let pendingOverflows :=
      0 < glyph.width && limit ≤ widthOf state.row + widthOf state.blanks + widthOf state.word
    if full || pendingOverflows then
      let broken := state.breakRow limit
      if glyph.isBlank && broken.blanks.isEmpty then broken else broken.add glyph
    else state.add glyph

/-- The rows of a line that has been read to its end. -/
def finish (state : State) : List (List Glyph) :=
  let onlyBlanks := state.row.isEmpty && state.word.isEmpty && !state.blanks.isEmpty
  let rows := if onlyBlanks then state.rows ++ [[]] else state.rows
  let last := state.row ++ state.blanks ++ state.word
  let rows := if last.isEmpty then rows else rows ++ [last]
  if rows.isEmpty then [[]] else rows

end State

/-- The rows that a line takes when it is wrapped. -/
def wrap (limit : Nat) (glyphs : List Glyph) : List (List Glyph) :=
  (glyphs.foldl (State.step limit) {}).finish

end UrclDebugger.Wrap
