import UrclDebugger.Session.Basic
import UrclDebugger.View.Pane

/-!
# The register pane

Lists the registers in their order of display. New ones, changed ones and the others differ in
colour.
-/

namespace UrclDebugger.View

/-- The look of a register. -/
def registerStyle : Option Change → Style
  | some .new => Style.colored Theme.newRegister
  | some .changed => (Style.colored Theme.changedRegister).inBold
  | _ => Style.colored Theme.text

/-- The row of a register whose name takes the given width. -/
def registerRow (delta : Delta) (width : Nat) (register : Register) : Pane.Row :=
  let style := registerStyle (delta.registers.get? register.name)
  { line :=
      { spans :=
          [⟨Pane.padRight width register.name, style⟩, ⟨" = ", Style.colored Theme.comment⟩,
            ⟨register.text, style⟩] } }

/-- The content of the register pane. -/
def registers (frame : Frame) : Pane.Content :=
  let listed := frame.snapshot.registers.toArray
  if listed.isEmpty then ⟨" Registers ", 1, fun _ => Pane.note "(no registers)", none⟩
  else
    let width := listed.foldl (fun width register => max width register.name.utf8ByteSize) 0
    { title := " Registers "
      count := listed.size
      row := fun index =>
        match listed[index]? with
        | some register => registerRow frame.delta width register
        | none => Pane.note "" }

/-- Draws the register pane. It follows nothing. -/
def drawRegisters (screen : Screen) (area : Area) (frame : Frame) (focused : Bool) (offset : Nat) :
    Screen × Nat :=
  Pane.draw screen area focused false offset (registers frame)

end UrclDebugger.View
