import UrclDebugger.App.Draw

/-!
# The loop of the application

The application goes round: it shows itself, takes the step of a run that is due, or else reads a
key and does what the key means. Where it is shown and where keys come from is up to a console, in
whatever monad the console lives. One round is a definition of its own: how often to go round is up
to what drives the loop.
-/

namespace UrclDebugger

/-- How a run of the application has ended. -/
inductive AppExit where
  | quit
  /-- The user gave up on a source that was to be loaded at the start. -/
  | startupAborted
  /-- Nothing can be shown any more. -/
  | closed
  deriving DecidableEq, Repr

/-- Where screens are shown and where keys come from. -/
structure Display (m : Type → Type) where
  /-- The width and the height of the screen. -/
  size : m (Nat × Nat)
  /-- Shows a screen; whether another one can be shown after it. -/
  present : Screen → m Bool
  /-- A key that has been pressed, if one is within the given number of milliseconds. -/
  readKey : Nat → m (Option Key)
  /-- Milliseconds after a fixed moment. -/
  now : m Nat

/-- A display, and what surrounds the session of an application that is shown on it. -/
structure Console (m : Type → Type) extends Display m where
  /-- The surroundings of a session while dialogs are drawn over the given screen. -/
  environment : Screen → Environment m

/-- The longest time, in milliseconds, that a round waits for a key. -/
def longestWait : Nat := 50

variable {m : Type → Type} [Monad m]

namespace LoadPrompt

/-- Asks once what to do about a source: shows the dialog and reads a key. When nothing can be shown
any more, the operation is given up. -/
def askOnce (display : Display m) (backdrop : Screen) (source : Source) (error : LoadError) :
    m (Option Decision) := do
  if !(← display.present (draw backdrop source error)) then return some .abort
  return (← display.readKey longestWait).bind decision?

end LoadPrompt

namespace App

variable {σ : Type} [Engine σ]

/-- Shows the application; whether it can be shown again. -/
def present (display : Display m) (app : App σ) : m (Bool × App σ) := do
  let (width, height) ← display.size
  let app := app.draw width height
  return (← display.present app.screen, app)

/-- Loads sources in order; whether all of them were loaded. -/
def openAll (env : Environment m) (app : App σ) : List String → m (Bool × App σ)
  | [] => return (true, app)
  | path :: rest => do
    match ← app.openSource env (Source.file path) with
    | (true, app) => openAll env app rest
    | (false, app) => return (false, app)

/-- Shows the application and loads the sources named at the start. -/
def begin (console : Console m) (paths : List String) (app : App σ) :
    m (Option AppExit × App σ) := do
  let (more, app) ← app.present console.toDisplay
  if !more then return (some .closed, app)
  match ← app.openAll (console.environment app.screen) paths with
  | (true, app) => return (none, app)
  | (false, app) => return (some .startupAborted, app)

/-- How long a round waits for a key: not past the next step of a run. -/
def patience (app : App σ) (now : Nat) : Nat :=
  match app.session.pacer.timeUntilTick? now with
  | some wait => min wait longestWait
  | none => longestWait

/-- One round; how the application has ended, if it has. -/
def round (console : Console m) (app : App σ) : m (Option AppExit × App σ) := do
  let (more, app) ← app.present console.toDisplay
  if !more then return (some .closed, app)
  if app.quitting then return (some .quit, app)
  let env := console.environment app.screen
  match ← app.tick env (← console.now) with
  | some app => return (none, app)
  | none =>
    match ← console.readKey (app.patience (← console.now)) with
    | some key => return (none, ← app.press env (← console.now) key)
    | none => return (none, app)

end App

end UrclDebugger
