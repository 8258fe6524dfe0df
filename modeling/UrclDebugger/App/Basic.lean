import UrclDebugger.App.Key
import UrclDebugger.Screen.Basic
import UrclDebugger.Session.Basic
import UrclDebugger.Text.Blank

/-!
# The application

The application is a session with what the user is doing to it: the pane that has the focus, how
far each pane is scrolled, what keys mean at the moment, and what the status bar says.
-/

namespace UrclDebugger

/-- The panes that can have the focus. -/
inductive Focus where
  | registers
  | program
  | stack
  | memory
  deriving DecidableEq, Repr

namespace Focus

/-- The next pane in the direction of the clock. -/
def next : Focus → Focus
  | registers => program
  | program => memory
  | memory => stack
  | stack => registers

/-- The next pane against the direction of the clock. -/
def previous : Focus → Focus
  | registers => stack
  | program => registers
  | stack => memory
  | memory => program

end Focus

/-- What keys mean. -/
inductive Mode where
  | normal
  /-- The path of a source is being typed. -/
  | openPath (typed : String)
  /-- The number of a source to take out is being typed. -/
  | pickUnload (digits : String)
  /-- Taking out the source at this index waits for a confirmation. -/
  | confirmUnload (index : Nat)
  deriving DecidableEq, Repr

/-- How far the panes are scrolled. -/
structure ScrollOffsets where
  registers : Nat := 0
  program : Nat := 0
  stack : Nat := 0
  memory : Nat := 0
  deriving DecidableEq, Repr, Inhabited

/-- The offsets with the one of the focused pane changed. -/
def ScrollOffsets.update (offsets : ScrollOffsets) (focus : Focus) (change : Nat → Nat) :
    ScrollOffsets :=
  match focus with
  | .registers => { offsets with registers := change offsets.registers }
  | .program => { offsets with program := change offsets.program }
  | .stack => { offsets with stack := change offsets.stack }
  | .memory => { offsets with memory := change offsets.memory }

/-- A session and what the user is doing to it. -/
structure App (σ : Type) where
  session : Session σ
  focus : Focus := .program
  scroll : ScrollOffsets := {}
  /-- The frame that was drawn last; the panes follow what is new in a later one. -/
  drawnRevision : Nat := 0
  /-- The screen that was drawn last; dialogs about sources are drawn over it. -/
  screen : Screen := Screen.blank 0 0
  mode : Mode := .normal
  quitting : Bool := false
  message : String := "Ready!"
  /-- The error of the last step, until something succeeds. -/
  error : Option String := none

namespace App

variable {σ : Type} [Engine σ] {m : Type → Type} [Monad m]

/-- An application without sources. -/
def new (interval : Nat) : App σ := { session := Session.new interval }

/-- The application with another message. -/
def say (app : App σ) (message : String) : App σ := { app with message := message }

/-- The application after something has succeeded. -/
def succeed (app : App σ) (message : String) : App σ :=
  { app with message := message, error := none }

/-- The status bar after a step. -/
def reportStep (app : App σ) (outcome : StepOutcome) : App σ :=
  match outcome with
  | .completed signals =>
    if signals.halted then app.succeed "Program halted"
    else if signals.broke then app.succeed "Break reached"
    else if app.session.pacer.running then { app with error := none }
    else app.succeed "Stepped"
  | .failed error => { app with error := some ("Engine Exception: " ++ error.message) }
  | .skipped => app

/-- Loads a source; whether it was loaded. -/
def openSource (env : Environment m) (app : App σ) (source : Source) : m (Bool × App σ) := do
  let (loaded, session) ← app.session.load env source
  let app := { app with session := session }
  if loaded then return (true, app.succeed ("Loaded " ++ source.displayName))
  else return (false, app.say ("Open of " ++ source.displayName ++ " aborted"))

/-- The status bar after the workspace was built anew, named by what was done to it. -/
def reportRebuild (env : Environment m) (verb : String) (rebuild : Rebuild) (app : App σ) :
    m (App σ) := do
  let count := toString app.session.sources.length
  match rebuild with
  | .completed =>
    env.log ⟨.info, verb ++ " (" ++ count ++ " module(s) remain)"⟩
    return app.succeed (verb ++ " (" ++ count ++ " module(s))")
  | .aborted => return app.succeed "Rebuild aborted; all modules unloaded"
  | .unchanged => return app

/-- Loads all sources anew. -/
def reload (env : Environment m) (app : App σ) : m (App σ) := do
  let (rebuild, session) ← app.session.reload env
  reportRebuild env "Reloaded" rebuild { app with session := session }

/-- Takes one source out. -/
def unload (env : Environment m) (app : App σ) (index : Nat) : m (App σ) := do
  let (rebuild, session) ← app.session.unload env index
  reportRebuild env "Unloaded" rebuild { app with session := session }

/-- Takes one step. -/
def step (env : Environment m) (app : App σ) : m (App σ) := do
  let (outcome, session) ← app.session.step env
  return { app with session := session }.reportStep outcome

/-- Takes the step of a run that is due, if one is. -/
def tick (env : Environment m) (now : Nat) (app : App σ) : m (Option (App σ)) := do
  let (outcome, session) ← app.session.tick env now
  match outcome with
  | none => return none
  | some outcome => return some ({ app with session := session }.reportStep outcome)

/-- Does something that needs sources, or says that there are none. -/
def withSources (app : App σ) (action : App σ → m (App σ)) : m (App σ) :=
  if app.session.sources.isEmpty then
    return app.say "No program loaded (press o to open one)"
  else action app

/-- Scrolls the focused pane. Drawing brings the offset back to the rows that there are. -/
def scrollFocused (app : App σ) (change : Nat → Nat) : App σ :=
  { app with scroll := app.scroll.update app.focus change }

/-- Asks which source to take out. -/
def askUnload (app : App σ) : App σ :=
  match app.session.sources.length with
  | 0 => app.say "No modules to unload"
  | 1 => { app with mode := .confirmUnload 0 }
  | _ => { app with mode := .pickUnload "" }

/-- A key pressed in normal mode. -/
def pressNormal (env : Environment m) (now : Nat) (app : App σ) : Key → m (App σ)
  | .char 'q' _ | .char 'Q' _ => return { app with quitting := true }
  | .char 's' _ | .right => app.withSources (step env)
  | .char 'r' _ =>
    app.withSources fun app => do
      let session ← app.session.start env now
      return { app with session := session }.succeed "Running..."
  | .char ' ' _ =>
    if app.session.pacer.running then do
      let session ← app.session.interrupt env
      return { app with session := session }.say "Interrupted"
    else return app
  | .char 'o' _ => return { app with mode := .openPath "" }
  | .char 'R' _ => app.withSources (reload env)
  | .char 'u' _ => return app.askUnload
  | .tab => return { app with focus := app.focus.next }
  | .backTab => return { app with focus := app.focus.previous }
  | .up => return app.scrollFocused (· - 1)
  | .down => return app.scrollFocused (· + 1)
  | .pageUp => return app.scrollFocused (· - 10)
  | .pageDown => return app.scrollFocused (· + 10)
  | .char 'c' true => return { app with quitting := true }
  | _ => return app

/-- A text without its last character. -/
def dropLast (text : String) : String := String.ofList text.toList.dropLast

/-- A key pressed while a path is typed. -/
def pressOpenPath (env : Environment m) (app : App σ) (typed : String) : Key → m (App σ)
  | .enter =>
    match Text.trim typed.toList with
    | [] => return { app with mode := .normal }
    | path => do
      let (_, app) ← { app with mode := .normal }.openSource env (Source.file (String.ofList path))
      return app
  | .escape => return { app with mode := .normal }
  | .backspace => return { app with mode := .openPath (dropLast typed) }
  | .char c _ => return { app with mode := .openPath (typed.push c) }
  | _ => return { app with mode := .openPath typed }

/-- The number that digits write. -/
def numberOf (digits : List Char) : Nat :=
  digits.foldl (fun value c => value * 10 + (c.toNat - '0'.toNat)) 0

/-- The index of the source that has the typed number, counted from one. -/
def sourceIndex? (digits : String) (count : Nat) : Option Nat :=
  if digits.isEmpty then none
  else
    let number := numberOf digits.toList
    if 1 ≤ number ∧ number ≤ count then some (number - 1) else none

/-- The mode after a digit is typed. With fewer than ten sources one digit is the whole number. -/
def modeAfterDigit (digits : String) (count : Nat) : Mode :=
  if count < 10 then
    match sourceIndex? digits count with
    | some index => .confirmUnload index
    | none => .pickUnload ""
  else .pickUnload digits

/-- A key pressed while the number of a source is typed. -/
def pressPickUnload (app : App σ) (digits : String) : Key → App σ
  | .char c _ =>
    if c.isDigit then
      { app with mode := modeAfterDigit (digits.push c) app.session.sources.length }
    else { app with mode := .pickUnload digits }
  | .backspace => { app with mode := .pickUnload (dropLast digits) }
  | .enter =>
    match sourceIndex? digits app.session.sources.length with
    | some index => { app with mode := .confirmUnload index }
    | none =>
      { app with mode := .pickUnload "" }.say ("No module numbered \"" ++ digits ++ "\"")
  | .escape => { app with mode := .normal }
  | _ => { app with mode := .pickUnload digits }

/-- A key pressed while a confirmation is waited for. -/
def pressConfirmUnload (env : Environment m) (app : App σ) (index : Nat) : Key → m (App σ)
  | .char 'y' _ | .char 'Y' _ | .enter => { app with mode := .normal }.unload env index
  | .char 'n' _ | .char 'N' _ | .escape =>
    return { app with mode := .normal }.say "Unload cancelled"
  | _ => return { app with mode := .confirmUnload index }

/-- A key pressed at the given time. -/
def press (env : Environment m) (now : Nat) (app : App σ) (key : Key) : m (App σ) :=
  match app.mode with
  | .normal => app.pressNormal env now key
  | .openPath typed => app.pressOpenPath env typed key
  | .pickUnload digits => return app.pressPickUnload digits key
  | .confirmUnload index => app.pressConfirmUnload env index key

end App

end UrclDebugger
