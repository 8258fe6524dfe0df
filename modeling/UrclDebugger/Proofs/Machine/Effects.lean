import UrclDebugger.Proofs.Assembly.Acceptance
import UrclDebugger.Proofs.Assembly.Names
import UrclDebugger.Proofs.Machine.Outcome

/-!
# What actions neither read nor change

An admissible action works on registers, label variables and the machine's state. Any other
variable is carried along by it, whatever its value (`Machine.ignores_perform`); the step flag is
such a variable, which is why an instruction can not clear it.
-/

namespace UrclDebugger

theorem Scope.requireInt_insert_of_ne (scope : Scope) {name wanted : String} (value : Value)
    (different : wanted ≠ name) :
    Scope.requireInt (scope.insert name value) wanted = scope.requireInt wanted := by
  unfold requireInt
  rw [FiniteMap.get?_insert_of_ne _ _ different]

namespace Machine

/-- The variables that actions keep the machine's state in, the registers apart. -/
def stateVariables : List String :=
  [Variable.memory, Variable.stack, Variable.instructionPointer, Variable.haltFlag,
    Variable.breakFlag]

/-- A variable that no action works on: neither a register nor a label variable, and none of those
that the machine's state is kept in. -/
structure Foreign (name : String) : Prop where
  notRegister : Operand.isRegister name = false
  notLabel : ∀ label, Operand.labelVariable label ≠ name
  notState : name ∉ stateVariables

theorem foreign_of_mem_own {name : String} (own : name ∈ Variable.own)
    (notState : name ∉ stateVariables) : Foreign name where
  notRegister := Operand.isRegister_of_mem_own own
  notLabel := Operand.labelVariable_ne_of_mem_own own
  notState := notState

theorem foreign_stepFlag : Foreign Variable.stepFlag :=
  foreign_of_mem_own (by decide) (by decide)

section

variable {name : String}

theorem Foreign.ne_of_isRegister (foreign : Foreign name) {register : String}
    (isRegister : Operand.isRegister register = true) : register ≠ name := by
  rintro rfl
  exact Bool.false_ne_true (foreign.notRegister.symm.trans isRegister)

theorem Foreign.ne_of_mem (foreign : Foreign name) {other : String}
    (member : other ∈ stateVariables) : other ≠ name := by
  rintro rfl
  exact foreign.notState member

theorem ignores_operand (foreign : Foreign name) (text : String) :
    Exec.Ignores name (operand text) := by
  apply Exec.ignores_read
  intro scope value
  unfold Operand.value
  split
  · rfl
  · split
    · rename_i isRegister
      exact Scope.requireInt_insert_of_ne scope value (foreign.ne_of_isRegister isRegister)
    · split
      · exact Scope.requireInt_insert_of_ne scope value (foreign.notLabel text)
      · rfl

theorem ignores_pointer (foreign : Foreign name) :
    Exec.Ignores name (Exec.read (Scope.requireInt · Variable.instructionPointer)) :=
  Exec.ignores_read fun scope value =>
    Scope.requireInt_insert_of_ne scope value (foreign.ne_of_mem (by decide))

theorem ignores_assign_state (foreign : Foreign name) {other : String}
    (member : other ∈ stateVariables) (bound : Value) :
    Exec.Ignores name (Exec.assign other bound) :=
  Exec.ignores_assign (foreign.ne_of_mem member) bound

theorem ignores_load (foreign : Foreign name) (address : Word) :
    Exec.Ignores name (Exec.read (Memory.load · address)) := by
  apply Exec.ignores_read
  intro scope value
  unfold Memory.load
  rw [FiniteMap.get?_insert_of_ne _ _ (foreign.ne_of_mem (by decide)),
    FiniteMap.get?_insert_of_ne _ _ (foreign.ne_of_mem (by decide))]

theorem ignores_store (foreign : Foreign name) (address : Word) (stored : Value) :
    Exec.Ignores name (Memory.store address stored) := by
  apply Exec.ignores_change
  · intro scope value
    unfold Memory.obstacle?
    rw [FiniteMap.get?_insert_of_ne _ _ (foreign.ne_of_mem (by decide)),
      FiniteMap.get?_insert_of_ne _ _ (foreign.ne_of_mem (by decide))]
  · intro scope value
    unfold Memory.write
    split
    · exact FiniteMap.alter_insert_of_ne scope (foreign.ne_of_mem (by decide)) _ value
    · exact FiniteMap.alter_insert_of_ne scope (foreign.ne_of_mem (by decide)) _ value

/-- The stack pointer is a register, which a foreign variable is not. -/
theorem Foreign.ne_stackPointer (foreign : Foreign name) : Variable.stackPointer ≠ name :=
  foreign.ne_of_isRegister (by decide)

theorem ignores_push (foreign : Foreign name) (pushed : Value) :
    Exec.Ignores name (Memory.push pushed) := by
  refine Exec.ignores_bind (Exec.ignores_read fun scope value =>
    Scope.requireInt_insert_of_ne scope value foreign.ne_stackPointer) fun pointer => ?_
  refine Exec.ignores_bind (Exec.ignores_arithmetic _) fun lowered => ?_
  refine Exec.ignores_bind (Exec.ignores_assign foreign.ne_stackPointer _) fun _ => ?_
  exact ignores_store foreign lowered pushed

theorem ignores_pop (foreign : Foreign name) : Exec.Ignores name Memory.pop := by
  refine Exec.ignores_bind (Exec.ignores_read fun scope value =>
    Scope.requireInt_insert_of_ne scope value foreign.ne_stackPointer) fun pointer => ?_
  have rest : Exec.Ignores name (do
      let value ← Exec.read (Memory.load · pointer)
      Exec.assign Variable.stackPointer (.int (pointer + 1))
      return value) := by
    refine Exec.ignores_bind (ignores_load foreign pointer) fun value => ?_
    exact Exec.ignores_bind (Exec.ignores_assign foreign.ne_stackPointer _) fun _ =>
      Exec.ignores_pure value
  split
  · exact Exec.ignores_bind (Exec.ignores_throw _) fun _ => rest
  · exact rest

theorem ignores_jump (foreign : Foreign name) (destination : Word) :
    Exec.Ignores name (jump destination) :=
  Exec.ignores_bind (Exec.ignores_arithmetic _) fun _ =>
    ignores_assign_state foreign (by decide) _

/-- An admissible action neither reads nor changes a foreign variable. -/
theorem ignores_perform (foreign : Foreign name) {action : Action}
    (admissible : action.Admissible) : Exec.Ignores name (perform action) := by
  have target {register : String} (assigned : register ∈ action.target?) (value : Value) :
      Exec.Ignores name (Exec.assign register value) :=
    Exec.ignores_assign (foreign.ne_of_isRegister
      (Instruction.isAssignable_iff.mp (admissible register assigned)).1) value
  cases action with
  | idle => exact Exec.ignores_pure ()
  | halt => exact ignores_assign_state foreign (by decide) _
  | pause => exact ignores_assign_state foreign (by decide) _
  | ret =>
    exact Exec.ignores_bind (ignores_pop foreign) fun _ =>
      ignores_assign_state foreign (by decide) _
  | push value =>
    exact Exec.ignores_bind (ignores_operand foreign value) fun _ => ignores_push foreign _
  | pop register => exact Exec.ignores_bind (ignores_pop foreign) fun _ => target rfl _
  | jump destination =>
    exact Exec.ignores_bind (ignores_operand foreign destination) fun _ => ignores_jump foreign _
  | call destination =>
    refine Exec.ignores_bind (ignores_operand foreign destination) fun position => ?_
    refine Exec.ignores_bind (ignores_pointer foreign) fun pointer => ?_
    exact Exec.ignores_bind (ignores_push foreign _) fun _ => ignores_jump foreign position
  | load register address =>
    refine Exec.ignores_bind (ignores_operand foreign address) fun address => ?_
    exact Exec.ignores_bind (ignores_load foreign address) fun _ => target rfl _
  | store address value =>
    refine Exec.ignores_bind (ignores_operand foreign address) fun address => ?_
    exact Exec.ignores_bind (ignores_operand foreign value) fun _ => ignores_store foreign address _
  | copy address source =>
    refine Exec.ignores_bind (ignores_operand foreign address) fun address => ?_
    refine Exec.ignores_bind (ignores_operand foreign source) fun source => ?_
    exact Exec.ignores_bind (ignores_load foreign source) fun _ => ignores_store foreign address _
  | assign register value =>
    exact Exec.ignores_bind (ignores_operand foreign value) fun _ => target rfl _
  | unary op register value =>
    refine Exec.ignores_bind (ignores_operand foreign value) fun _ => ?_
    exact Exec.ignores_bind (Exec.ignores_arithmetic _) fun _ => target rfl _
  | binary op register left right =>
    refine Exec.ignores_bind (ignores_operand foreign left) fun _ => ?_
    refine Exec.ignores_bind (ignores_operand foreign right) fun _ => ?_
    exact Exec.ignores_bind (Exec.ignores_arithmetic _) fun _ => target rfl _
  | branch test destination left right =>
    refine Exec.ignores_bind (ignores_operand foreign destination) fun position => ?_
    refine Exec.ignores_bind (ignores_operand foreign left) fun left => ?_
    refine Exec.ignores_bind (ignores_operand foreign right) fun right => ?_
    split
    · exact ignores_jump foreign position
    · exact Exec.ignores_pure ()

/-- The end of a turn: the instruction pointer moves on. -/
def moveOn : Exec Unit := do
  let pointer ← Exec.read (·.requireInt Variable.instructionPointer)
  Exec.assign Variable.instructionPointer (.int (pointer + 1))

theorem turn_eq : turn = (do
    let pointer ← Exec.read (·.requireInt Variable.instructionPointer)
    let action ← Exec.read (Fetch.action · pointer)
    perform action
    moveOn) := rfl

theorem ignores_moveOn (foreign : Foreign name) : Exec.Ignores name moveOn :=
  Exec.ignores_bind (ignores_pointer foreign) fun _ => ignores_assign_state foreign (by decide) _

/-- Where only admissible actions can be fetched, a turn carries a foreign variable along. -/
theorem outcome_turn_insert (foreign : Foreign name) (notProgram : name ≠ Variable.program)
    {scope : Scope} (admissible : ∀ position action,
      Fetch.action scope position = .ok action → action.Admissible) (value : Value) :
    turn.outcome (scope.insert name value) =
      ((turn.outcome scope).1, (turn.outcome scope).2.insert name value) := by
  have pointerUnread : Scope.requireInt (scope.insert name value) Variable.instructionPointer =
      scope.requireInt Variable.instructionPointer :=
    Scope.requireInt_insert_of_ne scope value (foreign.ne_of_mem (by decide))
  have programUnread (position : Word) :
      Fetch.action (scope.insert name value) position = Fetch.action scope position := by
    unfold Fetch.action Fetch.entry
    rw [FiniteMap.get?_insert_of_ne _ _ notProgram.symm]
  simp only [turn_eq, Exec.outcome_bind, Exec.outcome_read, pointerUnread]
  rcases scope.requireInt Variable.instructionPointer with error | pointer
  · rfl
  · simp only [programUnread]
    rcases fetched : Fetch.action scope pointer with error | action
    · rfl
    · have here := ignores_perform foreign (admissible pointer action fetched)
      have performed := Exec.ignores_bind here (fun _ => ignores_moveOn foreign) scope value
      simpa only [Exec.outcome_bind, Exec.outcome_read] using performed

end

end Machine

end UrclDebugger
