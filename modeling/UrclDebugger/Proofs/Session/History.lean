import UrclDebugger.Proofs.Session.Operation
import UrclDebugger.Proofs.Snapshot.History

/-!
# What was shown decides what has changed

The history of a session keeps one text for each register and cell, not what was shown one frame
after another. Over any operations it is nevertheless the latest sighting of every entry since the
workspace was last built anew, so the changes of the frame tell how each entry compares with the
frames before it. Only building the workspace anew forgets.
-/

namespace UrclDebugger

namespace Progress

variable {σ : Type} [Engine σ]

/-- The history keeps what was shown, and the changes of the frame tell how each of its entries
compares with what was shown before. -/
structure Remembers (progress : Progress σ) : Prop where
  history : progress.session.history.Remembers progress.shown
  frame : (progress.shown = [] ∧ progress.session.frame.snapshot = {}) ∨
    ∃ earlier, progress.shown = progress.session.frame.snapshot :: earlier ∧
      (∀ register ∈ progress.session.frame.snapshot.registers,
        Change.Tells (progress.session.frame.delta.registers.get? register.name)
          (earlier.map (Snapshot.register? · register.name)) register.value) ∧
      ∀ address text, progress.session.frame.snapshot.cell? address = some text →
        Change.Tells (progress.session.frame.delta.memory.get? address)
          (earlier.map (Snapshot.cell? · address)) text

/-- What has been sighted stays sighted when newer snapshots are shown. -/
theorem isSome_sighting {α : Type} (look : Snapshot → Option α) {shown later : List Snapshot}
    (extended : shown <:+ later)
    (sighted : ((shown.map look).findSome? id).isSome = true) :
    ((later.map look).findSome? id).isSome = true := by
  obtain ⟨newer, rfl⟩ := extended
  rw [List.findSome?_isSome_iff] at sighted ⊢
  obtain ⟨sighting, earlier, seen⟩ := sighted
  rw [List.map_append]
  exact ⟨sighting, List.mem_append_right _ earlier, seen⟩

variable {progress : Progress σ} {reply : Reply} {after : Session σ} (exchange : Exchange)

/-- A frame that is published joins what was shown since the workspace was last built anew. -/
theorem Remembers.replied [LawfulEngine σ] (held : progress.Remembers)
    (effect : Session.Effect progress.session reply after) :
    (progress.replied reply after exchange).Remembers := by
  cases effect with
  | quiet silent taken free workspace history frame revision =>
    have shown : (progress.replied reply after exchange).shown = progress.shown :=
      if_neg (Bool.eq_false_iff.mp silent)
    have kept : (progress.replied reply after exchange).session.history =
        progress.session.history := history
    have still : (progress.replied reply after exchange).session.frame =
        progress.session.frame := frame
    constructor
    · rw [kept, shown]
      exact held.history
    · rw [still, shown]
      exact held.frame
  | shown changed loud taken free reachable history revision seen =>
    subst seen
    let earlier := if reply.rebuilds then [] else progress.shown
    let snapshot := Snapshot.extract changed.scope
    have shown : (progress.replied reply (changed.showing snapshot) exchange).shown =
        snapshot :: earlier := if_pos loud
    -- a rebuild starts with an empty history, to which nothing was shown
    have remembered : changed.history.Remembers earlier := by
      rw [history]
      cases anew : reply.rebuilds with
      | true =>
        simp only [earlier, anew, ↓reduceIte]
        exact History.remembers_nil
      | false =>
        simp only [earlier, anew, Bool.false_eq_true, ↓reduceIte]
        exact held.history
    have distinct : snapshot.Distinct := Snapshot.distinct_extract changed.scope
    constructor
    · rw [shown]
      exact remembered.observe distinct
    · refine .inr ⟨earlier, shown, ?_, ?_⟩
      · exact fun register listed => remembered.tells_register distinct listed
      · exact fun address text listed => remembered.tells_cell distinct listed

omit [Engine σ] in
/-- Only building the workspace anew forgets an entry. What is kept is the latest sighting, and what
was shown before is still there after another frame. -/
theorem Remembers.not_erased (held : progress.Remembers)
    (still : (progress.replied reply after exchange).Remembers) (kept : reply.rebuilds = false) :
    progress.shown <:+ (progress.replied reply after exchange).shown ∧
      (∀ name, (progress.session.history.registers.get? name).isSome = true →
        (after.history.registers.get? name).isSome = true) ∧
      ∀ address, (progress.session.history.memory.get? address).isSome = true →
        (after.history.memory.get? address).isSome = true := by
  have extended : progress.shown <:+ (progress.replied reply after exchange).shown := by
    unfold Progress.replied
    cases reply.publishes with
    | true => simp [kept]
    | false => exact List.suffix_rfl
  have history : after.history.Remembers (progress.replied reply after exchange).shown :=
    still.history
  refine ⟨extended, fun name remembered => ?_, fun address remembered => ?_⟩
  · rw [held.history.registers, Option.isSome_map] at remembered
    rw [history.registers, Option.isSome_map]
    exact isSome_sighting _ extended remembered
  · rw [held.history.memory] at remembered
    rw [history.memory]
    exact isSome_sighting _ extended remembered

end Progress

namespace Surroundings

variable {σ : Type} [Engine σ] [LawfulEngine σ] (surroundings : Surroundings) (interval : Nat)

theorem remembers_play (operations : List Operation) :
    (surroundings.play interval operations : Progress σ).Remembers := by
  refine surroundings.play_induction interval (P := Progress.Remembers) ?_ ?_ operations
  · exact ⟨History.remembers_nil, .inl ⟨rfl, rfl⟩⟩
  · intro progress reply after exchange held effect
    exact held.replied exchange effect

/-- After any operations, the change of a register of the frame is new exactly when no earlier frame
since the last rebuild held the register, and changed or unchanged exactly when the latest earlier
frame that held it showed another or the same value; and so for memory cells with their texts. No
operation but a rebuild forgets anything. -/
theorem change_tells_shown (operations : List Operation) :
    let progress : Progress σ := surroundings.play interval operations
    progress.Remembers ∧ ∀ operation,
      let after := progress.next surroundings operation
      ∃ reply, after.replies = progress.replies ++ [reply] ∧ (reply.rebuilds = false →
        progress.shown <:+ after.shown ∧
          (∀ name, (progress.session.history.registers.get? name).isSome = true →
            (after.session.history.registers.get? name).isSome = true) ∧
          ∀ address, (progress.session.history.memory.get? address).isSome = true →
            (after.session.history.memory.get? address).isSome = true) := by
  intro progress
  have held : progress.Remembers := surroundings.remembers_play interval operations
  refine ⟨held, fun operation => ?_⟩
  have effect := Session.effect_perform surroundings progress.exchange progress.session
    (surroundings.stepping_play interval operations) operation
  refine ⟨_, rfl, fun kept => ?_⟩
  exact held.not_erased _ (held.replied _ effect) kept

/-- A program is loaded, stepped and shown again, and the last of three frames tells of the two
before. -/
theorem change_tells_shown_counting : LawfulEngine Scope ∧ ∃ progress : Progress Scope,
    progress = barren.play 100 [.load countingSource, .step, .refresh] ∧
      progress.shown.length = 3 ∧ progress.Remembers := by
  have frames : (barren.play 100 [.load countingSource, .step, .refresh] :
      Progress Scope).shown.length = 3 := by decide +kernel
  have told := change_tells_shown (σ := Scope) barren 100 [.load countingSource, .step, .refresh]
  exact ⟨inferInstance, _, rfl, frames, told.1⟩

end Surroundings

end UrclDebugger
