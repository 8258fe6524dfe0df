import UrclDebugger.Proofs.Session.Operation
import UrclDebugger.Proofs.Snapshot.History

/-!
# Building anew is loading from nothing

Reloading, and taking out a source that is there, forget the scope and everything that was shown.
What they leave is what a new session would have after loading the surviving sources one after
another, as long as the user keeps them all; once the user gives up nothing stays loaded.
-/

namespace UrclDebugger

/-- The sources that an operation builds the workspace anew from, if it does. -/
def Operation.survivors? (sources : List Source) : Operation → Option (List Source)
  | .reload => some sources
  | .unload index => if index < sources.length then some (sources.eraseIdx index) else none
  | _ => none

section Rebuild

variable {σ : Type} [Engine σ] (surroundings : Surroundings)

/-- The progress of a new session that loads sources in order, after an exchange of others. -/
def Surroundings.loadEach (interval : Nat) (exchange : Exchange) (sources : List Source) :
    Progress σ :=
  sources.foldl (fun progress source => progress.next surroundings (.load source))
    { session := Session.new interval, exchange := exchange }

/-- A source that the user does not give up on joins the workspace. -/
theorem Surroundings.next_load (progress : Progress σ) (source : Source)
    (kept : (surroundings.attempt progress.exchange progress.session.scope source).aborts = false) :
    let tried := surroundings.attempt progress.exchange progress.session.scope source
    let after := progress.next surroundings (.load source)
    after.session.workspace = ⟨progress.session.sources ++ [tried.source], tried.scope⟩ ∧
      after.exchange = progress.exchange.extend [source] [tried] ∧
      after.replies = progress.replies ++ [.loaded true] := by
  unfold Progress.next
  rw [Session.run_perform]
  dsimp only
  rw [Session.run_load]
  simp only [kept, Bool.false_eq_true, ↓reduceIte]
  exact ⟨rfl, rfl, rfl⟩

/-- Loading source after source goes as the attempts say when the user keeps them all. By induction
on the sources, from any progress. -/
theorem Surroundings.foldl_load (sources : List Source) (progress : Progress σ)
    (kept : (surroundings.attempts progress.exchange progress.session.scope sources).findIdx?
      Attempt.aborts = none) :
    let tried := surroundings.attempts progress.exchange progress.session.scope sources
    let loaded := sources.foldl (fun progress source => progress.next surroundings (.load source))
      progress
    loaded.session.workspace = ⟨progress.session.sources ++ tried.map Attempt.source,
        Attempt.scopeAfter progress.session.scope tried⟩ ∧
      loaded.exchange = progress.exchange.extend sources tried ∧
      loaded.replies = progress.replies ++ tried.map fun _ => .loaded true := by
  induction sources generalizing progress with
  | nil => simp [attempts, Attempt.scopeAfter, Session.sources, Session.scope]
  | cons source rest ih =>
    rw [attempts, List.findIdx?_cons] at kept
    rw [attempts, List.foldl_cons]
    cases gaveUp :
      (surroundings.attempt progress.exchange progress.session.scope source).aborts with
    | true => simp [gaveUp] at kept
    | false =>
      obtain ⟨workspace, exchange, replies⟩ := surroundings.next_load progress source gaveUp
      generalize surroundings.attempt progress.exchange progress.session.scope source = tried at *
      generalize progress.next surroundings (.load source) = after at *
      have sources : after.session.sources = progress.session.sources ++ [tried.source] :=
        congrArg Workspace.sources workspace
      have scope : after.session.scope = tried.scope := congrArg Workspace.scope workspace
      have keptRest : (surroundings.attempts after.exchange after.session.scope rest).findIdx?
          Attempt.aborts = none := by
        simpa [gaveUp, exchange, scope] using kept
      obtain ⟨workspaceRest, exchangeRest, repliesRest⟩ := ih after keptRest
      dsimp only
      rw [workspaceRest, exchangeRest, repliesRest, sources, scope, exchange, replies]
      simp [Exchange.extend_extend, Attempt.scopeAfter]

/-- A workspace that is built anew is completed or given up. -/
theorem Workspace.rebuild_ne_unchanged (exchange : Exchange) (sources : List Source) :
    ((Workspace.rebuild surroundings.environment sources :
      Recorded (Rebuild × Workspace σ)).run exchange).1.1 ≠ .unchanged := by
  rw [Workspace.run_rebuild]
  dsimp only
  split <;> exact nofun

namespace Session

variable (exchange : Exchange) (session : Session σ)

/-- An operation with survivors takes over what is built from them and publishes it. -/
theorem run_perform_of_survivors {operation : Operation} {surviving : List Source}
    (survives : operation.survivors? session.sources = some surviving) :
    (session.perform surroundings.environment operation).run exchange =
      let built := (Workspace.rebuild surroundings.environment surviving).run exchange
      ((.rebuilt built.1.1,
        (session.restarted built.1.2).showing (Snapshot.extract built.1.2.scope)), built.2) := by
  have changed := Workspace.rebuild_ne_unchanged (σ := σ) surroundings exchange surviving
  rw [run_perform]
  cases operation with
  | reload =>
    obtain rfl := Option.some.inj survives
    dsimp only
    rw [run_reload, run_afterRebuild, if_neg changed]
  | unload index =>
    by_cases inside : index < session.sources.length
    · have erased : session.sources.eraseIdx index = surviving := by
        simpa [Operation.survivors?, inside] using survives
      subst erased
      dsimp only
      rw [run_unload, List.getElem?_eq_getElem inside]
      dsimp only
      rw [run_afterRebuild, if_neg changed]
    · simp [Operation.survivors?, inside] at survives
  | _ => contradiction

/-- Without a history everything that is shown is new. -/
theorem delta_showing_of_forgotten [LawfulEngine σ] (forgotten : session.history = {}) :
    let delta := (session.showing (Snapshot.extract session.scope)).frame.delta
    (∀ name change, delta.registers.get? name = some change → change = .new) ∧
      ∀ address change, delta.memory.get? address = some change → change = .new := by
  have distinct := Snapshot.distinct_extract session.scope
  have registers := History.observe_registers distinct session.history
  have memory := History.observe_memory distinct session.history
  rw [forgotten] at registers memory
  unfold showing
  rw [forgotten]
  constructor
  · intro name change told
    rw [(registers name).1] at told
    obtain ⟨value, _, rfl⟩ := Option.map_eq_some_iff.mp told
    rfl
  · intro address change told
    rw [(memory address).1] at told
    obtain ⟨text, _, rfl⟩ := Option.map_eq_some_iff.mp told
    rfl

end Session

/-- Whatever a session holds, building its workspace anew from the surviving sources is loading them
into a new session. The sources are read and the user is asked in order, about each that can not be
read or loaded, up to the first one that the user gives up on. If there is none, the workspace is
that of a new session after the same exchange; otherwise nothing is loaded, and no later source is
read or asked about. Either way no run goes on and everything shown is new, and the result is the
same for every session with these sources. -/
theorem Surroundings.rebuild_eq_freshLoad [LawfulEngine σ] (exchange : Exchange)
    (session : Session σ) (operation : Operation) (surviving : List Source)
    (survives : operation.survivors? session.sources = some surviving) :
    let performed := (session.perform surroundings.environment operation).run exchange
    let after := performed.1.2
    let tried := surroundings.attempts exchange (Engine.fresh : σ) surviving
    (match tried.findIdx? Attempt.aborts with
      | none =>
        performed.1.1 = .rebuilt .completed ∧ after.sources = tried.map Attempt.source ∧
          performed.2 = exchange.extend surviving tried ∧
          ∀ interval, let fresh : Progress σ := surroundings.loadEach interval exchange surviving
            fresh.replies = tried.map (fun _ => .loaded true) ∧
              after.workspace = fresh.session.workspace ∧ performed.2 = fresh.exchange
      | some index =>
        performed.1.1 = .rebuilt .aborted ∧ after.sources = [] ∧ after.scope = Engine.fresh ∧
          performed.2 = exchange.extend (surviving.take (index + 1)) (tried.take (index + 1))) ∧
      after.pacer.running = false ∧ after.frame.snapshot = Snapshot.extract after.scope ∧
      (∀ name change, after.frame.delta.registers.get? name = some change → change = .new) ∧
      (∀ address change, after.frame.delta.memory.get? address = some change → change = .new) ∧
      ∀ other : Session σ, other.sources = session.sources →
        let again := (other.perform surroundings.environment operation).run exchange
        again.1.1 = performed.1.1 ∧ again.1.2.workspace = after.workspace ∧
          again.1.2.frame = after.frame ∧ again.1.2.history = after.history ∧
          again.2 = performed.2 := by
  intro performed after tried
  have built := Workspace.run_rebuild (σ := σ) surroundings surviving exchange
  generalize result : (Workspace.rebuild surroundings.environment surviving :
    Recorded (Rebuild × Workspace σ)).run exchange = rebuilt at built
  -- of the session itself only the pacer and the revision are left; all else is what was built
  have performs (some : Session σ) (same : some.sources = session.sources) :
      (some.perform surroundings.environment operation).run exchange =
        ((.rebuilt rebuilt.1.1,
          (some.restarted rebuilt.1.2).showing (Snapshot.extract rebuilt.1.2.scope)),
          rebuilt.2) := by
    rw [← result]
    exact some.run_perform_of_survivors surroundings exchange (same ▸ survives)
  have reply : performed.1.1 = .rebuilt rebuilt.1.1 := by
    simp only [performed, performs session rfl]
  have exchanged : performed.2 = rebuilt.2 := by
    simp only [performed, performs session rfl]
  have left : after = (session.restarted rebuilt.1.2).showing
      (Snapshot.extract rebuilt.1.2.scope) := by
    simp only [after, performed, performs session rfl]
  have workspace : after.workspace = rebuilt.1.2 := congrArg Session.workspace left
  have news := (session.restarted rebuilt.1.2).delta_showing_of_forgotten rfl
  refine ⟨?_, by rw [left]; rfl, by rw [left]; rfl, left ▸ news.1, left ▸ news.2, ?_⟩
  · dsimp only at built
    cases outcome : tried.findIdx? Attempt.aborts with
    | none =>
      rw [outcome] at built
      have sources : after.sources = tried.map Attempt.source := by
        rw [Session.sources, workspace, built]
      have extended : performed.2 = exchange.extend surviving tried := by rw [exchanged, built]
      refine ⟨by rw [reply, built], sources, extended, fun interval => ?_⟩
      obtain ⟨loadedWorkspace, loadedExchange, loadedReplies⟩ := surroundings.foldl_load surviving
        { session := Session.new interval, exchange := exchange } outcome
      refine ⟨loadedReplies, ?_, extended.trans loadedExchange.symm⟩
      rw [workspace, built]
      exact loadedWorkspace.symm
    | some index =>
      rw [outcome] at built
      refine ⟨by rw [reply, built], ?_, ?_, by rw [exchanged, built]⟩
      · rw [Session.sources, workspace, built]
        rfl
      · rw [Session.scope, workspace, built]
        rfl
  · intro other same
    rw [performs other same]
    refine ⟨reply.symm, workspace.symm, ?_, ?_, exchanged.symm⟩
    · rw [left]
      rfl
    · rw [left]
      rfl

end Rebuild

/-- A file that is not there. -/
def missingSource : Source := .file "missing.urcl"

/-- The first of two sources is taken out, and the user keeps the other one, which can not be
read. -/
theorem Surroundings.rebuild_eq_freshLoad_missing :
    let session : Session Scope :=
      { (Session.new 100 : Session Scope) with workspace := ⟨[countingSource, missingSource], ∅⟩ }
    let performed := (session.perform barren.environment (.unload 0)).run {}
    LawfulEngine Scope ∧ (Operation.unload 0).survivors? session.sources = some [missingSource] ∧
      performed.1.1 = .rebuilt .completed ∧ performed.1.2.sources = [missingSource] ∧
      performed.2.questions = [(missingSource, .unreadable "missing.urcl" .notFound)] := by
  intro session performed
  have rebuilt := (rebuild_eq_freshLoad barren {} session (.unload 0) [missingSource] rfl).1
  exact ⟨inferInstance, rfl, rebuilt.1, rebuilt.2.1, congrArg Exchange.questions rebuilt.2.2.1⟩

end UrclDebugger
