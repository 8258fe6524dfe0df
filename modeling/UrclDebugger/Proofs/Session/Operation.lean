import UrclDebugger.Proofs.Session.Surroundings
import UrclDebugger.Session.Basic

/-!
# Operations of a session

What a user or the clock asks of a session is one of eight operations, and each has a reply. In
given surroundings an operation either leaves the workspace and everything shown as it was, or it
changes the workspace first and then publishes one snapshot of the scope that it leaves
(`Session.Effect`). `Progress` carries along what has been replied and shown since a session was
begun, and what every operation preserves holds after any number of them
(`Surroundings.play_induction`).
-/

namespace UrclDebugger

/-- What a user or the clock asks of a session. -/
inductive Operation where
  | load (source : Source)
  | unload (index : Nat)
  | reload
  | step
  | start (now : Nat)
  | interrupt
  | tick (now : Nat)
  | refresh

/-- What a session replies to an operation. -/
inductive Reply where
  /-- Whether the source has joined the workspace. -/
  | loaded (joined : Bool)
  | rebuilt (result : Rebuild)
  | stepped (outcome : StepOutcome)
  | started
  | interrupted
  /-- How the step that was due has ended, if one was due. -/
  | ticked (outcome : Option StepOutcome)
  | refreshed

namespace Reply

/-- Whether the operation has changed what is shown: a load that was not given up, a rebuild of a
workspace that was there to be rebuilt, a step, also one that failed, and a refresh. -/
def publishes : Reply → Bool
  | .loaded joined => joined
  | .rebuilt result => result ≠ .unchanged
  | .stepped _ | .refreshed => true
  | .ticked outcome => outcome.isSome
  | .started | .interrupted => false

/-- Whether the operation has built the workspace anew. -/
def rebuilds : Reply → Bool
  | .rebuilt result => result ≠ .unchanged
  | _ => false

/-- Whether a step was asked for while another one was being taken. -/
def isSkipped : Reply → Bool
  | .stepped outcome => outcome = .skipped
  | .ticked outcome => outcome = some .skipped
  | _ => false

end Reply

/-- The workspaces of a session: sources join in any order, whether they can be read and loaded or
not, and steps are taken in between. -/
inductive Workspace.Reachable {σ : Type} [Engine σ] : Workspace σ → Prop where
  | empty : Reachable Workspace.empty
  | unread {workspace : Workspace σ} (reachable : Reachable workspace) (source : Source) :
      Reachable ⟨workspace.sources ++ [source], workspace.scope⟩
  | loaded {workspace : Workspace σ} (reachable : Reachable workspace) (source : Source) :
      Reachable ⟨workspace.sources ++ [source], (Engine.load workspace.scope source).scope⟩
  | stepped {workspace : Workspace σ} (reachable : Reachable workspace) :
      Reachable { workspace with scope := (Engine.step workspace.scope).2 }

namespace Workspace.Reachable

variable {σ : Type} [Engine σ] {workspace : Workspace σ} (surroundings : Surroundings)

theorem attempt (reachable : workspace.Reachable) (exchange : Exchange) (source : Source) :
    let tried := surroundings.attempt exchange workspace.scope source
    Reachable ⟨workspace.sources ++ [tried.source], tried.scope⟩ := by
  unfold Surroundings.attempt
  cases surroundings.reading exchange source with
  | error error => exact reachable.unread source
  | ok source => exact reachable.loaded source

/-- By induction on the sources: every attempt adds one to the workspace. -/
theorem attempts (reachable : workspace.Reachable) (exchange : Exchange) (sources : List Source) :
    let tried := surroundings.attempts exchange workspace.scope sources
    Reachable ⟨workspace.sources ++ tried.map Attempt.source,
      Attempt.scopeAfter workspace.scope tried⟩ := by
  induction sources generalizing workspace exchange with
  | nil =>
    have unchanged : workspace.sources ++ [] = workspace.sources := List.append_nil _
    unfold Surroundings.attempts
    simp only [List.map_nil, unchanged]
    exact reachable
  | cons source rest ih =>
    have first := reachable.attempt surroundings exchange source
    unfold Surroundings.attempts
    generalize surroundings.attempt exchange workspace.scope source = tried at first ⊢
    have later := ih first (exchange.extend [source] [tried])
    simpa [Attempt.scopeAfter] using later

theorem rebuild (exchange : Exchange) (sources : List Source) :
    ((Workspace.rebuild surroundings.environment sources : Recorded (Rebuild × Workspace σ)).run
      exchange).1.2.Reachable := by
  rw [run_rebuild]
  dsimp only
  cases (surroundings.attempts exchange (Engine.fresh : σ) sources).findIdx? Attempt.aborts with
  | none => exact empty.attempts surroundings exchange sources
  | some index => exact empty

end Workspace.Reachable

namespace Session

section Perform

variable {σ : Type} [Engine σ] {m : Type → Type} [Monad m]

/-- Performs an operation. -/
def perform (env : Environment m) (session : Session σ) : Operation → m (Reply × Session σ)
  | .load source => do
    let (joined, after) ← session.load env source
    return (.loaded joined, after)
  | .unload index => do
    let (result, after) ← session.unload env index
    return (.rebuilt result, after)
  | .reload => do
    let (result, after) ← session.reload env
    return (.rebuilt result, after)
  | .step => do
    let (outcome, after) ← session.step env
    return (.stepped outcome, after)
  | .start now => return (.started, ← session.start env now)
  | .interrupt => return (.interrupted, ← session.interrupt env)
  | .tick now => do
    let (outcome, after) ← session.tick env now
    return (.ticked outcome, after)
  | .refresh => return (.refreshed, ← session.refresh env)

end Perform

variable {σ : Type} [Engine σ]

/-- What an operation may do to a session: nothing that is seen, or a change of the workspace that
ends with a snapshot of the scope. -/
inductive Effect (session : Session σ) : Reply → Session σ → Prop where
  | quiet {reply : Reply} {after : Session σ} (silent : reply.publishes = false)
      (taken : reply.isSkipped = false) (free : after.pacer.stepping = false)
      (workspace : after.workspace = session.workspace) (history : after.history = session.history)
      (frame : after.frame = session.frame) (revision : after.revision = session.revision) :
      Effect session reply after
  | shown {reply : Reply} {after : Session σ} (changed : Session σ) (loud : reply.publishes = true)
      (taken : reply.isSkipped = false) (free : changed.pacer.stepping = false)
      (reachable : session.workspace.Reachable → changed.workspace.Reachable)
      (history : changed.history = if reply.rebuilds then {} else session.history)
      (revision : changed.revision = session.revision)
      (seen : after = changed.showing (Snapshot.extract changed.scope)) :
      Effect session reply after

/-- No effect leaves a step unfinished. -/
theorem Effect.stepping {session : Session σ} {reply : Reply} {after : Session σ}
    (effect : Effect session reply after) : after.pacer.stepping = false := by
  cases effect with
  | quiet silent taken free => exact free
  | shown changed loud taken free reachable history revision seen =>
    rw [seen]
    exact free

section Run

variable (surroundings : Surroundings) (exchange : Exchange) (session : Session σ)

theorem run_publish :
    (session.publish surroundings.environment).run exchange =
      (session.showing (Snapshot.extract session.scope), exchange) := by
  unfold publish
  simp only [Recorded.run_bind, Surroundings.run_logAll, Recorded.run_pure]
  rfl

theorem run_load (source : Source) :
    (session.load surroundings.environment source).run exchange =
      let tried := surroundings.attempt exchange session.scope source
      let extended : Session σ :=
        { session with workspace := ⟨session.sources ++ [tried.source], tried.scope⟩ }
      (if tried.aborts then (false, session)
        else (true, extended.showing (Snapshot.extract tried.scope)),
        exchange.extend [source] [tried]) := by
  unfold load
  rw [Recorded.run_bind, Workspace.run_load?]
  dsimp only [scope]
  cases (surroundings.attempt exchange session.workspace.scope source).aborts with
  | true => rfl
  | false =>
    simp only [Bool.false_eq_true, ↓reduceIte]
    rw [Recorded.run_bind, run_publish]
    rfl

/-- The session that takes over a workspace that was built anew. -/
def restarted (built : Workspace σ) : Session σ :=
  { session with workspace := built, pacer := session.pacer.stop, history := {} }

theorem run_afterRebuild (built : Rebuild × Workspace σ) :
    (session.afterRebuild surroundings.environment built).run exchange =
      (if built.1 = .unchanged then (.unchanged, session)
        else (built.1, (session.restarted built.2).showing (Snapshot.extract built.2.scope)),
        exchange) := by
  unfold afterRebuild
  split
  · rfl
  · rw [Recorded.run_bind, run_publish]
    rfl

/-- How a step that has a result is answered, and what becomes of the run that it is part of. -/
def verdict (pacer : Pacer) (scope : σ) : Except ExecError Unit → StepOutcome × Pacer
  | .ok _ => (.completed (Signals.read scope), pacer.afterStep (Signals.read scope))
  | .error error => (.failed error, pacer.stop)

theorem run_settle (pacer : Pacer) (scope : σ) (result : Except ExecError Unit) :
    (settle surroundings.environment pacer scope result).run exchange =
      (verdict pacer scope result, exchange) := by
  cases result with
  | error error => rfl
  | ok _ =>
    unfold settle
    dsimp only
    split <;> rfl

/-- The session after a step of the engine. -/
def stepped : StepOutcome × Session σ :=
  let taken := Engine.step session.scope
  let judged := verdict { session.pacer with stepping := true } taken.2 taken.1
  (judged.1, { session with
    workspace := { session.workspace with scope := taken.2 }, pacer := judged.2.endStep })

/-- A step is taken unless one is being taken. -/
theorem run_step (free : session.pacer.stepping = false) :
    (session.step surroundings.environment).run exchange =
      ((session.stepped.1, session.stepped.2.showing (Snapshot.extract session.stepped.2.scope)),
        exchange) := by
  unfold step Pacer.beginStep?
  simp only [free, Bool.false_eq_true, ↓reduceIte]
  rw [Recorded.run_bind, run_settle, Recorded.run_bind, run_publish]
  rfl

/-- A tick is a step if one is due. -/
theorem run_tick (free : session.pacer.stepping = false) (now : Nat) :
    (session.tick surroundings.environment now).run exchange =
      match session.pacer.takeTick? now with
      | none => ((none, session), exchange)
      | some pacer =>
        let ticked : StepOutcome × Session σ := stepped { session with pacer := pacer }
        ((some ticked.1, ticked.2.showing (Snapshot.extract ticked.2.scope)), exchange) := by
  unfold tick
  cases due : session.pacer.takeTick? now with
  | none => rfl
  | some pacer =>
    have freeStill : pacer.stepping = false := by
      unfold Pacer.takeTick? at due
      split at due
      · obtain rfl := Option.some.inj due
        exact free
      · contradiction
    rw [Recorded.run_bind, run_step _ _ _ freeStill]
    rfl

theorem run_reload :
    (session.reload surroundings.environment).run exchange =
      let built := (Workspace.rebuild surroundings.environment session.sources).run exchange
      (session.afterRebuild surroundings.environment built.1).run built.2 := rfl

theorem run_unload (index : Nat) :
    (session.unload surroundings.environment index).run exchange =
      match session.sources[index]? with
      | none => ((.unchanged, session), exchange)
      | some _ =>
        let built := (Workspace.rebuild surroundings.environment
          (session.sources.eraseIdx index)).run exchange
        (session.afterRebuild surroundings.environment built.1).run built.2 := by
  unfold unload Workspace.unload sources
  cases session.workspace.sources[index]? with
  | none => rfl
  | some source => rfl

/-- What an operation replies and leaves is what its method returns and leaves. -/
theorem run_perform (operation : Operation) :
    (session.perform surroundings.environment operation).run exchange =
      match operation with
      | .load source =>
        let loaded := (session.load surroundings.environment source).run exchange
        ((.loaded loaded.1.1, loaded.1.2), loaded.2)
      | .unload index =>
        let rebuilt := (session.unload surroundings.environment index).run exchange
        ((.rebuilt rebuilt.1.1, rebuilt.1.2), rebuilt.2)
      | .reload =>
        let rebuilt := (session.reload surroundings.environment).run exchange
        ((.rebuilt rebuilt.1.1, rebuilt.1.2), rebuilt.2)
      | .step =>
        let taken := (session.step surroundings.environment).run exchange
        ((.stepped taken.1.1, taken.1.2), taken.2)
      | .start now =>
        let started := (session.start surroundings.environment now).run exchange
        ((.started, started.1), started.2)
      | .interrupt =>
        let interrupted := (session.interrupt surroundings.environment).run exchange
        ((.interrupted, interrupted.1), interrupted.2)
      | .tick now =>
        let taken := (session.tick surroundings.environment now).run exchange
        ((.ticked taken.1.1, taken.1.2), taken.2)
      | .refresh =>
        let refreshed := (session.refresh surroundings.environment).run exchange
        ((.refreshed, refreshed.1), refreshed.2) := by
  cases operation <;> rfl

/-- Taking over a workspace that was built anew is seen unless there was nothing to build. -/
theorem effect_afterRebuild (free : session.pacer.stepping = false)
    (built : Rebuild × Workspace σ) (reachable : built.1 ≠ .unchanged → built.2.Reachable) :
    let replied := ((session.afterRebuild surroundings.environment built).run exchange).1
    Effect session (.rebuilt replied.1) replied.2 := by
  rw [run_afterRebuild]
  by_cases nothing : built.1 = .unchanged
  · rw [if_pos nothing]
    exact .quiet rfl rfl free rfl rfl rfl rfl
  · rw [if_neg nothing]
    have loud : (Reply.rebuilt built.1).publishes = true := decide_eq_true nothing
    have anew : (Reply.rebuilt built.1).rebuilds = true := decide_eq_true nothing
    exact .shown (session.restarted built.2) loud rfl free (fun _ => reachable nothing)
      (by rw [anew]; rfl) rfl rfl

/-- A step that is taken is not answered as skipped. -/
theorem stepped_ne_skipped : session.stepped.1 ≠ .skipped := by
  unfold stepped
  cases Engine.step session.scope with
  | mk result scope => cases result <;> exact nofun

/-- A step is always seen, also when it fails. -/
theorem effect_stepped (pacer : Pacer) {reply : Reply} (loud : reply.publishes = true)
    (taken : reply.isSkipped = false) (kept : reply.rebuilds = false) :
    let ticked := stepped { session with pacer := pacer }
    Effect session reply (ticked.2.showing (Snapshot.extract ticked.2.scope)) :=
  let ticked := stepped { session with pacer := pacer }
  .shown ticked.2 loud taken rfl Workspace.Reachable.stepped (by rw [kept]; rfl) rfl rfl

/-- While no step is being taken, every operation has an effect of the one kind or the other. -/
theorem effect_perform (free : session.pacer.stepping = false) (operation : Operation) :
    let performed := ((session.perform surroundings.environment operation).run exchange).1
    Effect session performed.1 performed.2 := by
  have taken (taking : Session σ) : (Reply.stepped taking.stepped.1).isSkipped = false ∧
      (Reply.ticked (some taking.stepped.1)).isSkipped = false := by
    simp [Reply.isSkipped, stepped_ne_skipped]
  rw [run_perform]
  cases operation with
  | load source =>
    dsimp only
    rw [run_load]
    have joined := fun reachable : session.workspace.Reachable =>
      reachable.attempt surroundings exchange source
    cases gaveUp : (surroundings.attempt exchange session.scope source).aborts with
    | true =>
      simp only [gaveUp, ↓reduceIte]
      exact .quiet rfl rfl free rfl rfl rfl rfl
    | false =>
      simp only [gaveUp, Bool.false_eq_true, ↓reduceIte]
      let tried := surroundings.attempt exchange session.scope source
      let extended : Session σ :=
        { session with workspace := ⟨session.sources ++ [tried.source], tried.scope⟩ }
      exact .shown extended rfl rfl free joined rfl rfl rfl
  | unload index =>
    dsimp only
    rw [run_unload]
    cases session.sources[index]? with
    | none => exact .quiet rfl rfl free rfl rfl rfl rfl
    | some source =>
      have rebuilt := Workspace.Reachable.rebuild (σ := σ) surroundings exchange
        (session.sources.eraseIdx index)
      exact effect_afterRebuild surroundings _ session free _ fun _ => rebuilt
  | reload =>
    have rebuilt := Workspace.Reachable.rebuild (σ := σ) surroundings exchange session.sources
    exact effect_afterRebuild surroundings _ session free _ fun _ => rebuilt
  | step =>
    dsimp only
    rw [run_step _ _ _ free]
    exact effect_stepped session session.pacer rfl (taken session).1 rfl
  | start now => exact .quiet rfl rfl free rfl rfl rfl rfl
  | interrupt =>
    unfold interrupt
    cases session.pacer.running <;> exact .quiet rfl rfl free rfl rfl rfl rfl
  | tick now =>
    dsimp only
    rw [run_tick _ _ _ free]
    cases session.pacer.takeTick? now with
    | none => exact .quiet rfl rfl free rfl rfl rfl rfl
    | some pacer => exact effect_stepped session pacer rfl (taken _).2 rfl
  | refresh =>
    dsimp only [refresh]
    rw [run_publish]
    exact .shown session rfl rfl free id rfl rfl rfl

end Run

end Session

/-- What has come of the operations on a session so far. -/
structure Progress (σ : Type) where
  session : Session σ
  exchange : Exchange := {}
  /-- The replies, in order. -/
  replies : List Reply := []
  /-- The snapshots published since the workspace was last built anew, the latest first. -/
  shown : List Snapshot := []

namespace Progress

variable {σ : Type} [Engine σ]

/-- The progress after an operation that was replied to. -/
def replied (progress : Progress σ) (reply : Reply) (after : Session σ) (exchange : Exchange) :
    Progress σ where
  session := after
  exchange := exchange
  replies := progress.replies ++ [reply]
  shown :=
    if reply.publishes then
      after.frame.snapshot :: (if reply.rebuilds then [] else progress.shown)
    else progress.shown

/-- The progress after one more operation. -/
def next (surroundings : Surroundings) (progress : Progress σ) (operation : Operation) :
    Progress σ :=
  let performed :=
    (progress.session.perform surroundings.environment operation).run progress.exchange
  progress.replied performed.1.1 performed.1.2 performed.2

end Progress

namespace Surroundings

variable {σ : Type} [Engine σ] (surroundings : Surroundings) (interval : Nat)

/-- The progress after operations on a new session. -/
def play (operations : List Operation) : Progress σ :=
  operations.foldl (Progress.next surroundings) { session := Session.new interval }

theorem play_concat (operations : List Operation) (operation : Operation) :
    (surroundings.play interval (operations ++ [operation]) : Progress σ) =
      (surroundings.play interval operations).next surroundings operation := by
  rw [play, List.foldl_append]
  rfl

/-- What holds of a new session and is kept by every effect holds after any operations. By induction
on the operations, along with the fact that no step is ever being taken when one is asked for. -/
theorem play_induction {P : Progress σ → Prop} (begun : P { session := Session.new interval })
    (kept : ∀ progress reply after exchange, P progress →
      Session.Effect progress.session reply after → P (progress.replied reply after exchange))
    (operations : List Operation) : P (surroundings.play interval operations) := by
  have run : P (surroundings.play interval operations) ∧
      (surroundings.play interval operations : Progress σ).session.pacer.stepping = false := by
    unfold play
    refine List.foldlRecOn (motive := fun progress => P progress ∧
      progress.session.pacer.stepping = false) operations _ ⟨begun, rfl⟩
      fun progress held operation _ => ?_
    have effect := Session.effect_perform surroundings progress.exchange progress.session held.2
      operation
    exact ⟨kept _ _ _ _ held.1 effect, effect.stepping⟩
  exact run.1

theorem stepping_play (operations : List Operation) :
    (surroundings.play interval operations : Progress σ).session.pacer.stepping = false :=
  surroundings.play_induction interval
    (P := fun progress => progress.session.pacer.stepping = false) rfl
    (fun _ _ _ _ _ effect => effect.stepping) operations

/-- One more operation is replied to with an effect. -/
theorem effect_play (operations : List Operation) (operation : Operation) :
    let before : Progress σ := surroundings.play interval operations
    ∃ reply, (before.next surroundings operation).replies = before.replies ++ [reply] ∧
      Session.Effect before.session reply (before.next surroundings operation).session :=
  ⟨_, rfl, Session.effect_perform surroundings _ _ (surroundings.stepping_play interval operations)
    operation⟩

/-- Every workspace that a session comes to is reachable. -/
theorem reachable_play (operations : List Operation) :
    (surroundings.play interval operations : Progress σ).session.workspace.Reachable := by
  refine surroundings.play_induction interval
    (P := fun progress => progress.session.workspace.Reachable) .empty ?_ operations
  intro progress reply after exchange held effect
  cases effect with
  | quiet silent taken free workspace =>
    have unchanged : (progress.replied reply after exchange).session.workspace =
        progress.session.workspace := workspace
    exact unchanged ▸ held
  | shown changed loud taken free reachable history revision seen =>
    have published : (progress.replied reply after exchange).session =
        changed.showing (Snapshot.extract changed.scope) := seen
    rw [published]
    exact reachable held

/-- Surroundings without files, where the user keeps every source. -/
def barren : Surroundings where
  fileText _ _ := .error .notFound
  answer _ _ _ := .keep

end Surroundings

/-- A program of one instruction. -/
def countingSource : Source := .inline "count.urcl" "ADD R1 R1 1"

end UrclDebugger
