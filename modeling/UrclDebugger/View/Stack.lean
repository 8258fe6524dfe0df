import UrclDebugger.Session.Basic
import UrclDebugger.View.Pane

/-!
# The stack pane

Lists the stack cells in the order in which they were pushed. The top is marked and followed; if
the stack pointer lies outside the stack, no cell is.
-/

namespace UrclDebugger.View

/-- The row of a stack cell. -/
def stackRow (index : Nat) (active : Bool) (text : String) : Pane.Row :=
  let marked := Style.colored Theme.activeStack
  let number : Span := ⟨"[" ++ toString index ++ "] ", Style.colored Theme.comment⟩
  if active then { line := { spans := [number, ⟨text, marked.inBold⟩, ⟨" ◀ top", marked⟩] } }
  else { line := { spans := [number, ⟨text, Style.colored Theme.text⟩] } }

/-- The content of the stack pane. -/
def stack (view : StackView) : Pane.Content :=
  let title := " Stack │ SP = " ++ view.pointer.toDecimal ++ " "
  if view.cells.isEmpty then ⟨title, 1, fun _ => Pane.note "(empty)", none⟩
  else
    { title := title
      count := view.cells.size
      row := fun index =>
        stackRow index (view.active? == some index) ((view.cells[index]?).getD "")
      followed := view.active? }

/-- Draws the stack pane. Without a stack its window does not move. -/
def drawStack (screen : Screen) (area : Area) (frame : Frame) (focused follow : Bool)
    (offset : Nat) : Screen × Nat :=
  match frame.snapshot.stack with
  | none => (Pane.drawList screen area " Stack " focused [Pane.note "(no stack)"], offset)
  | some view => Pane.draw screen area focused follow offset (stack view)

end UrclDebugger.View
