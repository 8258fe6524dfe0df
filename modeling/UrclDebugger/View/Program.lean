import UrclDebugger.Session.Basic
import UrclDebugger.View.Pane

/-!
# The program pane

Lists the instructions with their positions. The instruction that runs next is marked and followed.
-/

namespace UrclDebugger.View

/-- The row of an instruction whose position takes the given width. -/
def instructionRow (width index : Nat) (current : Bool) (source : String) : Pane.Row :=
  let marked := Style.colored Theme.currentInstruction
  { line :=
      { spans :=
          [⟨if current then "▶ " else "  ", marked⟩,
            ⟨Pane.padLeft width (toString index) ++ " ", Style.colored Theme.comment⟩,
            ⟨source, if current then marked.inBold else Style.colored Theme.text⟩] }
    style := if current then Style.plain.withBackground Theme.currentLine else Style.plain }

/-- The content of the program pane. -/
def program (listing : ProgramListing) : Pane.Content :=
  let width := (toString (listing.instructions.size - 1)).length
  { title := " Program │ IP = " ++ listing.pointer.toDecimal ++ " "
    count := listing.instructions.size
    row := fun index =>
      instructionRow width index (listing.current? == some index)
        ((listing.instructions[index]?).getD "")
    followed := listing.current? }

/-- Draws the program pane. Without a program its window does not move. -/
def drawProgram (screen : Screen) (area : Area) (frame : Frame) (focused follow : Bool)
    (offset : Nat) : Screen × Nat :=
  match frame.snapshot.program with
  | none =>
    (Pane.drawList screen area " Program " focused [Pane.note "(no program)"], offset)
  | some listing => Pane.draw screen area focused follow offset (program listing)

end UrclDebugger.View
