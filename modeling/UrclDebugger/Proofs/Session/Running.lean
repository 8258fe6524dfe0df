import UrclDebugger.Proofs.Session.Latch
import UrclDebugger.Proofs.Session.Operation

/-!
# When a program runs by itself

A session runs its program by itself from a start until something ends the run: an interrupt, a
rebuild, or a step that failed or has left the halt or the break flag set. It does not matter
whether a step was asked for by the user or by the clock. So whether a session is running can be
told from what it has replied so far (`Reply.running`), and each reply to a request for a step tells
what the engine has made of it (`Operation.Answered`).
-/

namespace UrclDebugger

/-- Whether a step that has ended in this way ends a run. -/
def StepOutcome.endsRun : StepOutcome → Bool
  | .completed signals => signals.shouldStop
  | .failed _ => true
  | .skipped => false

/-- How a step from a scope ends. -/
def StepOutcome.ofStep {σ : Type} [Engine σ] (scope : σ) : StepOutcome :=
  match Engine.step scope with
  | (.ok _, left) => .completed (Signals.read left)
  | (.error error, _) => .failed error

namespace Reply

/-- Whether a run has been started. -/
def starts : Reply → Bool
  | .started => true
  | _ => false

/-- Whether a run ends, if there is one. -/
def endsRun : Reply → Bool
  | .rebuilt result => result ≠ .unchanged
  | .stepped outcome => outcome.endsRun
  | .ticked outcome => outcome.any StepOutcome.endsRun
  | .interrupted => true
  | .loaded _ | .started | .refreshed => false

/-- Whether the program runs by itself after one more reply. -/
def running (before : Bool) (reply : Reply) : Bool := reply.starts || before && !reply.endsRun

theorem starts_eq_true_iff {reply : Reply} : reply.starts = true ↔ reply = .started := by
  cases reply <;> simp [starts]

end Reply

namespace Pacer

/-- A step that is due leaves the run as it is. -/
theorem running_of_takeTick? {pacer due : Pacer} {now : Nat}
    (taken : pacer.takeTick? now = some due) : due.running = pacer.running := by
  unfold takeTick? at taken
  split at taken
  · obtain rfl := Option.some.inj taken
    rfl
  · contradiction

/-- Without a run no step is due. -/
theorem takeTick?_of_not_running {pacer : Pacer} (idle : pacer.running = false) (now : Nat) :
    pacer.takeTick? now = none := by
  rw [takeTick?, idle]
  rfl

theorem running_afterStep (pacer : Pacer) (signals : Signals) :
    (pacer.afterStep signals).running = (pacer.running && !signals.shouldStop) := by
  unfold afterStep endsRun stop
  cases running : pacer.running <;> cases signals.shouldStop <;> simp [running]

end Pacer

namespace Session

variable {σ : Type} [Engine σ]

/-- A step answers with how the engine's step has ended, and the run goes on unless that ends it. -/
theorem stepped_eq (session : Session σ) :
    session.stepped.1 = .ofStep session.scope ∧ session.stepped.2.pacer.running =
      (session.pacer.running && !(StepOutcome.ofStep session.scope).endsRun) := by
  unfold stepped StepOutcome.ofStep
  rcases Engine.step session.scope with ⟨error | _, left⟩
  · exact ⟨rfl, (Bool.and_false _).symm⟩
  · exact ⟨rfl, Pacer.running_afterStep _ _⟩

variable (surroundings : Surroundings) (exchange : Exchange) (session : Session σ)

end Session

namespace Surroundings

variable {σ : Type} [Engine σ] (surroundings : Surroundings) (interval : Nat)

end Surroundings

end UrclDebugger
