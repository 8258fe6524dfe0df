import UrclDebugger.App.Loop
import UrclDebugger.Files
import UrclDebugger.Screen.Shown

/-!
# Playing back key presses

An application can be run on a script of key presses instead of a terminal. A key is handed over
when the screen has been drawn and the key before it has been read. When the script is used up, the
next screen that is drawn is the last one. Time stands still, so a run takes a step per round or
none at all.
-/

namespace UrclDebugger

/-- An entry of a script. -/
inductive ScriptedEvent where
  | key (key : Key)
  /-- No key for one round. -/
  | pause
  deriving DecidableEq, Repr

/-- What is played back, and the surroundings that it is played back in. -/
structure Playback where
  width : Nat
  height : Nat
  /-- The files that can be opened. -/
  files : FileTree := {}
  /-- What is still to be handed over. -/
  script : List ScriptedEvent := []
  /-- The key that is handed over and not yet read. -/
  pending : Option Key := none
  /-- Whether no screen has been drawn in this run. -/
  starting : Bool := true
  /-- What is shown. -/
  shown : ShownScreen := ShownScreen.blank width height
  log : List Log.Record := []

namespace Playback

/-- Shows a screen and hands over the next key; whether there is more to come. -/
def present (screen : Screen) (playback : Playback) : Bool × Playback :=
  let shown := { playback with shown := playback.shown.update screen, starting := false }
  match playback.pending, playback.script with
  | some _, _ => (true, shown)
  | none, [] => (playback.starting, shown)
  | none, .key key :: rest => (true, { shown with pending := some key, script := rest })
  | none, .pause :: rest => (true, { shown with script := rest })

/-- Takes the key that was handed over, if one was. -/
def readKey (playback : Playback) : Option Key × Playback :=
  (playback.pending, { playback with pending := none })

/-- The display of a playback. -/
def display : Display (StateM Playback) where
  size playback := ((playback.width, playback.height), playback)
  present := present
  readKey _ := readKey
  now := return 0

/-- Asks what to do about a source until there is a decision, at most the given number of times. -/
def ask (backdrop : Screen) (source : Source) (error : LoadError) : Nat → StateM Playback Decision
  | 0 => return .abort
  | limit + 1 => do
    match ← LoadPrompt.askOnce display backdrop source error with
    | some decision => return decision
    | none => ask backdrop source error limit

/-- The surroundings of the session. A prompt asks as often as it can be shown: every time takes the
pending key or an entry of the script, and when there is none left the operation is given up. -/
def environment (backdrop : Screen) : Environment (StateM Playback) where
  fileText path := return (← get).files.readText path
  ask source error playback :=
    ask backdrop source error (playback.script.length + 2) playback
  log record := modify fun playback => { playback with log := playback.log ++ [record] }

/-- The console of a playback. -/
def console : Console (StateM Playback) := { display with environment := environment }

variable {σ : Type} [Engine σ]

/-- Goes round until the application has ended, at most the given number of times. -/
def rounds (app : App σ) : Nat → StateM Playback (Option AppExit × App σ)
  | 0 => return (none, app)
  | limit + 1 => do
    match ← app.round console with
    | (some ended, app) => return (some ended, app)
    | (none, app) => rounds app limit

/-- Runs the application on a script, for at most the given number of rounds. -/
def run (limit : Nat) (paths : List String) (script : List ScriptedEvent) (app : App σ) :
    StateM Playback (Option AppExit × App σ) := do
  modify fun playback => { playback with script := script, pending := none, starting := true }
  match ← app.begin console paths with
  | (some ended, app) => return (some ended, app)
  | (none, app) => rounds app limit

end Playback

end UrclDebugger
