import UrclDebugger.App.Basic
import UrclDebugger.View.Dialog
import UrclDebugger.View.Memory
import UrclDebugger.View.Program
import UrclDebugger.View.Registers
import UrclDebugger.View.Stack
import UrclDebugger.View.Status

/-!
# Drawing the application

The module bar is at the top and the status bar at the bottom; a screen of one row is the status
bar's. Between them the registers stand over the stack on the left, and the program over the memory
on the right. When a frame is drawn for the first time the panes follow what is new in it. A dialog
for the present mode lies over all of it.
-/

namespace UrclDebugger

/-- The areas of a screen. -/
structure ScreenLayout where
  modules : Area
  registers : Area
  stack : Area
  program : Area
  memory : Area
  status : Area
  deriving DecidableEq, Repr

/-- The areas of a screen of the given size. -/
def ScreenLayout.ofSize (width height : Nat) : ScreenLayout :=
  let middle : Area := ⟨0, min (height - 1) 1, width, height - 2⟩
  let left := middle.columns 0 40
  let right := middle.columns 40 100
  { modules := ⟨0, 0, width, min (height - 1) 1⟩
    registers := left.rows 0 60
    stack := left.rows 60 100
    program := right.rows 0 55
    memory := right.rows 55 100
    status := ⟨0, height - 1, width, min height 1⟩ }

namespace App

variable {σ : Type} [Engine σ]

/-- The dialog of a mode, if it has one. -/
def dialog? (app : App σ) : Option View.Dialog :=
  let names := app.session.sources.map Source.displayName
  match app.mode with
  | .normal => none
  | .openPath typed =>
    some
      { title := "Open Module"
        body := ["Path: " ++ typed ++ "▏"]
        hints := [("↵", "open"), ("esc", "cancel")] }
  | .pickUnload digits =>
    let numbered := (List.range' 1 names.length).zip names
    some
      { title := "Unload Module"
        body := numbered.map (fun (number, name) => toString number ++ "  " ++ name) ++
          ["", "Module: " ++ digits ++ "▏"]
        hints := [("0-9", "number"), ("↵", "choose"), ("esc", "cancel")] }
  | .confirmUnload index =>
    some
      { title := "Unload Module"
        body := ["Unload " ++ (names[index]?).getD "?" ++
          " and rebuild from the remaining modules?"]
        hints := [("y", "unload"), ("n", "keep")] }

/-- What the status bar shows. -/
def status (app : App σ) : View.Status where
  message := app.message
  state := app.session.runState
  error := app.error
  revision := app.session.revision
  hasSources := !app.session.sources.isEmpty

/-- The application drawn on a screen of the given size, its panes scrolled to what they show. -/
def draw (width height : Nat) (app : App σ) : App σ :=
  let layout := ScreenLayout.ofSize width height
  let frame := app.session.frame
  let follow := app.session.revision != app.drawnRevision
  let names := app.session.sources.map Source.displayName
  let screen := View.drawModules (Screen.blank width height) layout.modules names
  let (screen, registers) :=
    View.drawRegisters screen layout.registers frame (app.focus = .registers) app.scroll.registers
  let (screen, stack) :=
    View.drawStack screen layout.stack frame (app.focus = .stack) follow app.scroll.stack
  let (screen, program) :=
    View.drawProgram screen layout.program frame (app.focus = .program) follow app.scroll.program
  let (screen, memory) :=
    View.drawMemory screen layout.memory frame (app.focus = .memory) follow app.scroll.memory
  let screen := View.drawStatus screen layout.status app.status
  let screen :=
    match app.dialog? with
    | some dialog => dialog.draw screen
    | none => screen
  { app with
    screen := screen
    scroll := ⟨registers, program, stack, memory⟩
    drawnRevision := app.session.revision }

end App

namespace LoadPrompt

/-- The dialog that asks what to do about a source that can not be loaded. -/
def dialog (source : Source) (error : LoadError) : View.Dialog where
  title := "Load Error"
  body := ["Could not load " ++ source.displayName ++ ":", error.message]
  hints := [("c", "continue"), ("a", "abort")]
  isError := true

/-- The dialog drawn over the screen that was shown before. -/
def draw (backdrop : Screen) (source : Source) (error : LoadError) : Screen :=
  (dialog source error).draw backdrop

/-- The decision that a key stands for. -/
def decision? : Key → Option Decision
  | .char 'c' _ | .char 'C' _ | .enter => some .keep
  | .char 'a' _ | .char 'A' _ | .escape => some .abort
  | _ => none

end LoadPrompt

end UrclDebugger
