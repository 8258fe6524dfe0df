import UrclDebugger.Session.Basic
import UrclDebugger.View.Pane

/-!
# The memory pane

Lists the memory cells by address, with a mark where addresses are absent. New and changed cells
are highlighted, and the last of them is followed.
-/

namespace UrclDebugger.View

/-- Whether a memory row shows a new or changed cell. -/
def isUpdated (delta : Delta) : MemoryRow → Bool
  | .gap => false
  | .cell address _ =>
    match delta.memory.get? address with
    | some change => change.isHighlighted
    | none => false

/-- The row of the memory pane for a memory row, addresses taking the given width. -/
def memoryPaneRow (delta : Delta) (width : Nat) (row : MemoryRow) : Pane.Row :=
  match row with
  | .gap => Pane.note "···"
  | .cell address text =>
    let style :=
      if isUpdated delta row then (Style.colored Theme.changedMemory).inBold
      else Style.colored Theme.text
    { line :=
        { spans :=
            [⟨Pane.padLeft width address.toDecimal, Style.colored Theme.primary⟩,
              ⟨" │ ", Style.colored Theme.comment⟩, ⟨text, style⟩] } }

/-- The index of the last row that shows a new or changed cell, rows being counted from `index`. -/
def lastUpdated? (delta : Delta) (index : Nat) : List MemoryRow → Option Nat
  | [] => none
  | row :: rest =>
    (lastUpdated? delta (index + 1) rest).or (if isUpdated delta row then some index else none)

/-- The content of the memory pane. -/
def memory (frame : Frame) : Pane.Content :=
  let rows := frame.snapshot.memory.toArray
  let width :=
    frame.snapshot.addresses.foldl (fun width address => max width address.toDecimal.length) 0
  { title := " Memory "
    count := rows.size
    row := fun index =>
      match rows[index]? with
      | some row => memoryPaneRow frame.delta width row
      | none => Pane.note ""
    followed := lastUpdated? frame.delta 0 frame.snapshot.memory }

/-- Draws the memory pane. Without memory its window does not move. -/
def drawMemory (screen : Screen) (area : Area) (frame : Frame) (focused follow : Bool)
    (offset : Nat) : Screen × Nat :=
  if frame.snapshot.memory.isEmpty then
    (Pane.drawList screen area " Memory " focused [Pane.note "(no memory)"], offset)
  else Pane.draw screen area focused follow offset (memory frame)

end UrclDebugger.View
