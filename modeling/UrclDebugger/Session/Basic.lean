import UrclDebugger.Session.Pacer
import UrclDebugger.Session.Workspace
import UrclDebugger.Snapshot.Extract
import UrclDebugger.Snapshot.History

/-!
# Sessions

A session is a workspace under debugging: it takes steps, paces runs and publishes frames. A frame
is a snapshot of the scope and what has changed since the frames before it. Every operation that
may change the scope publishes one frame when it is done, so the frame always shows the scope as it
is; all other operations publish none. Building the workspace anew forgets what was shown before.
-/

namespace UrclDebugger

/-- A snapshot and what has changed in it. -/
structure Frame where
  snapshot : Snapshot := {}
  delta : Delta := {}
  deriving Inhabited

/-- How a request for a step has ended. -/
inductive StepOutcome where
  | completed (signals : Signals)
  /-- The step failed, which ends a run. -/
  | failed (error : ExecError)
  /-- A step was being taken already. -/
  | skipped
  deriving DecidableEq

/-- A workspace under debugging. -/
structure Session (σ : Type) where
  workspace : Workspace σ
  history : History
  pacer : Pacer
  /-- The frame published last. -/
  frame : Frame
  /-- The number of frames published. -/
  revision : Nat

namespace Session

variable {σ : Type} [Engine σ] {m : Type → Type} [Monad m]

/-- A session without sources whose runs take a step per interval. -/
def new (interval : Nat) : Session σ where
  workspace := Workspace.empty
  history := {}
  pacer := { interval := interval }
  frame := {}
  revision := 0

/-- The loaded sources. -/
def sources (session : Session σ) : List Source := session.workspace.sources

/-- The scope that the loaded sources have made. -/
def scope (session : Session σ) : σ := session.workspace.scope

/-- What the program is doing. -/
def runState (session : Session σ) : RunState :=
  session.pacer.state (Signals.read session.scope).halted

/-- The session with a snapshot published as its frame. -/
def showing (session : Session σ) (snapshot : Snapshot) : Session σ :=
  let observed := session.history.observe snapshot
  { session with
    history := observed.2
    frame := ⟨snapshot, observed.1⟩
    revision := session.revision + 1 }

/-- Publishes a frame of the scope. -/
def publish (env : Environment m) (session : Session σ) : m (Session σ) := do
  let (snapshot, notes) := Snapshot.extractWithLog session.scope
  env.logAll notes
  return session.showing snapshot

/-- Publishes a frame without changing anything else. -/
def refresh (env : Environment m) (session : Session σ) : m (Session σ) :=
  session.publish env

/-- Loads a source into the scope as it is; whether it was loaded. What was shown before stays the
history. -/
def load (env : Environment m) (session : Session σ) (source : Source) :
    m (Bool × Session σ) := do
  match ← session.workspace.load? env source with
  | none => return (false, session)
  | some workspace => return (true, ← { session with workspace := workspace }.publish env)

/-- Takes over a workspace that was built anew. -/
def afterRebuild (env : Environment m) (session : Session σ) (built : Rebuild × Workspace σ) :
    m (Rebuild × Session σ) := do
  if built.1 = .unchanged then return (.unchanged, session)
  let restarted : Session σ :=
    { session with workspace := built.2, pacer := session.pacer.stop, history := {} }
  return (built.1, ← restarted.publish env)

/-- Reads and loads all sources anew. -/
def reload (env : Environment m) (session : Session σ) : m (Rebuild × Session σ) := do
  session.afterRebuild env (← session.workspace.reload env)

/-- Takes one source out and loads the others anew. -/
def unload (env : Environment m) (session : Session σ) (index : Nat) :
    m (Rebuild × Session σ) := do
  session.afterRebuild env (← session.workspace.unload env index)

/-- The text of a flag in messages. -/
def flagText (flag : Bool) : String := if flag then "true" else "false"

/-- What a step's result means for the run it is part of. -/
def settle (env : Environment m) (pacer : Pacer) (scope : σ) (result : Except ExecError Unit) :
    m (StepOutcome × Pacer) := do
  match result with
  | .ok _ =>
    let signals := Signals.read scope
    if pacer.endsRun signals then
      env.log ⟨.info, "continuous run stopped (halt: " ++ flagText signals.halted ++
        ", break: " ++ flagText signals.broke ++ ")"⟩
    return (.completed signals, pacer.afterStep signals)
  | .error error =>
    env.log ⟨.warn, "step failed: " ++ error.message⟩
    return (.failed error, pacer.stop)

/-- Takes one step and publishes what it leaves. -/
def step (env : Environment m) (session : Session σ) : m (StepOutcome × Session σ) := do
  match session.pacer.beginStep? with
  | none =>
    env.log ⟨.debug, "step already in flight, request dropped"⟩
    return (.skipped, session)
  | some pacer =>
    let (result, scope) := Engine.step session.scope
    let (outcome, pacer) ← settle env pacer scope result
    let stepped : Session σ :=
      { session with workspace := { session.workspace with scope := scope }, pacer := pacer }
    let shown ← stepped.publish env
    return (outcome, { shown with pacer := shown.pacer.endStep })

/-- Starts a run. -/
def start (env : Environment m) (session : Session σ) (now : Nat) : m (Session σ) := do
  env.log ⟨.info, "continuous run started"⟩
  return { session with pacer := session.pacer.start now }

/-- Ends a run without taking a step. -/
def interrupt (env : Environment m) (session : Session σ) : m (Session σ) := do
  if session.pacer.running then env.log ⟨.info, "continuous run interrupted"⟩
  return { session with pacer := session.pacer.stop }

/-- Takes the step of a run that is due, if one is. -/
def tick (env : Environment m) (session : Session σ) (now : Nat) :
    m (Option StepOutcome × Session σ) := do
  match session.pacer.takeTick? now with
  | none => return (none, session)
  | some pacer =>
    let (outcome, stepped) ← { session with pacer := pacer }.step env
    return (some outcome, stepped)

end Session

end UrclDebugger
