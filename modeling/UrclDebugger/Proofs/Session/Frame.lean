import UrclDebugger.Proofs.Session.Operation
import UrclDebugger.Proofs.Snapshot.History

/-!
# The frame is never stale

Whatever is asked of a session, and whatever its files hold and the user answers, the frame shows
the scope as it is after every operation, and its changes are about exactly the registers and cells
that it shows. Frames are counted; an operation that publishes none leaves everything that is shown
as it was.
-/

namespace UrclDebugger

namespace Session

variable {σ : Type} [Engine σ]

/-- The frame shows the scope, and a change for every entry and for nothing else. -/
structure ShowsScope (session : Session σ) : Prop where
  snapshot : session.frame.snapshot = Snapshot.extract session.scope
  registers : ∀ name, (session.frame.delta.registers.get? name).isSome = true ↔
    name ∈ session.frame.snapshot.registers.map Register.name
  memory : ∀ address, (session.frame.delta.memory.get? address).isSome = true ↔
    address ∈ session.frame.snapshot.addresses

variable [LawfulEngine σ]

/-- A new session shows that there is nothing. -/
theorem showsScope_new (interval : Nat) : (new interval : Session σ).ShowsScope where
  snapshot := Snapshot.extract_fresh.symm
  registers _ := ⟨nofun, nofun⟩
  memory _ := ⟨nofun, nofun⟩

/-- Publishing shows the scope. -/
theorem showsScope_showing (session : Session σ) :
    (session.showing (Snapshot.extract session.scope)).ShowsScope where
  snapshot := rfl
  registers name := by
    have observed := (session.history.observe_registers
      (Snapshot.distinct_extract session.scope) name).1
    have shown := (Snapshot.extract session.scope).isSome_register? name
    simp only [showing, observed, Option.isSome_map]
    exact shown
  memory address := by
    have observed := (session.history.observe_memory
      (Snapshot.distinct_extract session.scope) address).1
    have shown := (Snapshot.extract session.scope).isSome_cell? address
    simp only [showing, observed, Option.isSome_map]
    exact shown

/-- An effect keeps the frame current: it publishes, or changes nothing that is shown. -/
theorem Effect.showsScope {session after : Session σ} {reply : Reply}
    (effect : Effect session reply after) (held : session.ShowsScope) : after.ShowsScope := by
  cases effect with
  | quiet silent taken free workspace history frame revision =>
    have scope : after.scope = session.scope := congrArg Workspace.scope workspace
    constructor
    · rw [frame, scope]
      exact held.snapshot
    · rw [frame]
      exact held.registers
    · rw [frame]
      exact held.memory
  | shown changed loud taken free reachable history revision seen =>
    rw [seen]
    exact showsScope_showing changed

end Session

namespace Surroundings

variable {σ : Type} [Engine σ] [LawfulEngine σ] (surroundings : Surroundings) (interval : Nat)

theorem showsScope_play (operations : List Operation) :
    (surroundings.play interval operations : Progress σ).session.ShowsScope := by
  refine surroundings.play_induction interval (P := fun progress => progress.session.ShowsScope)
    (Session.showsScope_new interval) ?_ operations
  intro progress reply after exchange held effect
  exact effect.showsScope held

omit [LawfulEngine σ] in
/-- Frames are published by the operations whose replies say so. -/
theorem revision_play (operations : List Operation) :
    let progress : Progress σ := surroundings.play interval operations
    progress.session.revision = progress.replies.countP Reply.publishes := by
  refine surroundings.play_induction interval (P := fun progress =>
    progress.session.revision = progress.replies.countP Reply.publishes) rfl ?_ operations
  intro progress reply after exchange held effect
  have counted : (progress.replied reply after exchange).replies.countP Reply.publishes =
      progress.session.revision + [reply].countP Reply.publishes := by
    rw [held, ← List.countP_append]
    rfl
  rw [counted]
  cases effect with
  | quiet silent taken free workspace history frame revision =>
    rw [List.countP_singleton, silent]
    exact revision
  | shown changed loud taken free reachable history revision seen =>
    rw [List.countP_singleton, loud, ← revision]
    exact congrArg Session.revision seen

omit [LawfulEngine σ] in
/-- No request for a step is ever turned down. -/
theorem not_skipped_play (operations : List Operation) :
    ∀ reply ∈ (surroundings.play interval operations : Progress σ).replies,
      reply.isSkipped = false := by
  refine surroundings.play_induction interval (P := fun progress : Progress σ =>
    ∀ reply ∈ progress.replies, reply.isSkipped = false) nofun ?_ operations
  intro progress reply after exchange held effect other answered
  rcases List.mem_append.mp answered with earlier | last
  · exact held other earlier
  · obtain rfl := List.mem_singleton.mp last
    cases effect with
    | quiet silent taken => exact taken
    | shown changed loud taken => exact taken

/-- After every operation the frame shows the scope, with a change for exactly its registers and
cells; the revision counts the operations that were published; no step is being taken and none was
turned down. An operation that was not published has left the workspace, the frame and its history
as they were. -/
theorem frame_never_stale (operations : List Operation) (operation : Operation) :
    let before : Progress σ := surroundings.play interval operations
    let after := before.next surroundings operation
    after.session.ShowsScope ∧
      after.session.revision = after.replies.countP Reply.publishes ∧
      after.session.pacer.stepping = false ∧ (∀ reply ∈ after.replies, reply.isSkipped = false) ∧
      ∃ reply, after.replies = before.replies ++ [reply] ∧
        (reply.publishes = false → after.session.workspace = before.session.workspace ∧
          after.session.history = before.session.history ∧
          after.session.frame = before.session.frame ∧
          after.session.revision = before.session.revision) := by
  intro before after
  have played : after = surroundings.play interval (operations ++ [operation]) :=
    (surroundings.play_concat interval operations operation).symm
  have current := surroundings.showsScope_play (σ := σ) interval (operations ++ [operation])
  have counted := surroundings.revision_play (σ := σ) interval (operations ++ [operation])
  have free := surroundings.stepping_play (σ := σ) interval (operations ++ [operation])
  have taken := surroundings.not_skipped_play (σ := σ) interval (operations ++ [operation])
  obtain ⟨reply, replied, effect⟩ := surroundings.effect_play (σ := σ) interval operations operation
  refine ⟨played ▸ current, played ▸ counted, played ▸ free, played ▸ taken, reply, replied, ?_⟩
  intro silent
  cases effect with
  | quiet _ _ _ workspace history frame revision => exact ⟨workspace, history, frame, revision⟩
  | shown changed loud =>
    rw [silent] at loud
    contradiction

/-- A program is loaded and stepped once, which is published twice; then a source is taken out that
is not there, which is not published and leaves the workspace as it was. -/
theorem frame_never_stale_counting : LawfulEngine Scope ∧ ∃ before after : Progress Scope,
    before = barren.play 100 [.load countingSource, .step] ∧
      after = before.next barren (.unload 1) ∧ after.session.ShowsScope ∧
      after.replies.map Reply.publishes = [true, true, false] ∧ after.session.revision = 2 ∧
      after.session.workspace = before.session.workspace := by
  have published : ((barren.play 100 [.load countingSource, .step] : Progress Scope).next barren
      (.unload 1)).replies.map Reply.publishes = [true, true] ++ [false] := by decide +kernel
  obtain ⟨current, counted, _, _, reply, replied, silent⟩ :=
    frame_never_stale (σ := Scope) barren 100 [.load countingSource, .step] (.unload 1)
  have quiet : reply.publishes = false := by
    rw [replied, List.map_append] at published
    exact List.singleton_inj.mp (List.append_inj_right' published rfl)
  have frames : ((barren.play 100 [.load countingSource, .step] : Progress Scope).next barren
      (.unload 1)).replies.countP Reply.publishes = 2 := by decide +kernel
  exact ⟨inferInstance, _, _, rfl, rfl, current, published, counted.trans frames,
    (silent quiet).1⟩

end Surroundings

end UrclDebugger
