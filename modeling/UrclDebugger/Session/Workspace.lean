import UrclDebugger.Session.Environment

/-!
# Workspaces

A workspace is the loaded sources in order and the scope that loading them in this order has
made. A source joins the workspace when it loads without an error or the user keeps it in spite of
one. Taking a source out, or reading all of them anew, builds the scope again from a fresh one; if
the user gives up on the way, nothing stays loaded.
-/

namespace UrclDebugger

/-- Loaded sources and the scope that they have made. -/
structure Workspace (σ : Type) where
  sources : List Source
  scope : σ

/-- How building a workspace again has ended. -/
inductive Rebuild where
  | completed
  /-- The user gave up; nothing is loaded. -/
  | aborted
  /-- There was nothing to take out. -/
  | unchanged
  deriving DecidableEq, Repr

namespace Workspace

variable {σ : Type} [Engine σ] {m : Type → Type} [Monad m]

/-- The workspace without sources. -/
def empty : Workspace σ := ⟨[], Engine.fresh⟩

/-- The source with the present text of its file. -/
def refresh (env : Environment m) (source : Source) : m (Except LoadError Source) :=
  match source.path with
  | none => return .ok source
  | some path => do
    match ← env.fileText path with
    | .ok text => return .ok { source with text := text }
    | .error error => return .error (.unreadable path error)

/-- Reads a source and loads it into a scope. The source comes back as it was read; the scope
carries every binding that was made. -/
def loadInto (env : Environment m) (scope : σ) (source : Source) :
    m (Source × σ × Option LoadError) := do
  match ← refresh env source with
  | .error error => return (source, scope, some error)
  | .ok source =>
    let loading := Engine.load scope source
    env.logAll loading.log
    return (source, loading.scope, loading.failure)

/-- Adds a source, or nothing if the user gives up. -/
def load? (env : Environment m) (workspace : Workspace σ) (source : Source) :
    m (Option (Workspace σ)) := do
  let (source, scope, failure) ← loadInto env workspace.scope source
  let extended : Workspace σ := ⟨workspace.sources ++ [source], scope⟩
  match failure with
  | none =>
    env.log ⟨.info, "loaded " ++ source.name⟩
    return some extended
  | some error =>
    env.log ⟨.warn, "could not load " ++ source.name ++ ": " ++ error.message⟩
    match ← env.ask source error with
    | .abort =>
      env.log ⟨.info, "load of " ++ source.name ++ " aborted"⟩
      return none
    | .keep =>
      env.log ⟨.info, "keeping " ++ source.name ++ " despite the error"⟩
      return some extended

/-- Adds sources in order, or nothing if the user gives up on one of them. -/
def loadAll? (env : Environment m) (workspace : Workspace σ) :
    List Source → m (Option (Workspace σ))
  | [] => return some workspace
  | source :: rest => do
    match ← workspace.load? env source with
    | none => return none
    | some extended => extended.loadAll? env rest

/-- A workspace built anew from sources. -/
def rebuild (env : Environment m) (sources : List Source) : m (Rebuild × Workspace σ) := do
  match ← (empty : Workspace σ).loadAll? env sources with
  | none => return (.aborted, empty)
  | some rebuilt =>
    env.log ⟨.info, "scope rebuilt from " ++ toString rebuilt.sources.length ++ " module(s)"⟩
    return (.completed, rebuilt)

/-- Builds the workspace anew from the same sources. -/
def reload (env : Environment m) (workspace : Workspace σ) : m (Rebuild × Workspace σ) :=
  rebuild env workspace.sources

/-- Takes one source out and builds the workspace anew from the others. -/
def unload (env : Environment m) (workspace : Workspace σ) (index : Nat) :
    m (Rebuild × Workspace σ) := do
  match workspace.sources[index]? with
  | none =>
    env.log ⟨.warn, "no module at index " ++ toString index⟩
    return (.unchanged, workspace)
  | some source =>
    env.log ⟨.info, "unloading " ++ source.name⟩
    rebuild env (workspace.sources.eraseIdx index)

end Workspace

end UrclDebugger
