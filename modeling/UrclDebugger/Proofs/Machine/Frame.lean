import UrclDebugger.Proofs.Machine.Access

/-!
# What actions leave as it is

A computation leaves a variable if the variable has its value afterwards, also after a failure.
Apart from pushes, pops, calls and returns an action leaves every variable that is not its target,
not one of the flags or the instruction pointer, and not what its store goes to
(`Machine.get?_of_perform`).
-/

namespace UrclDebugger

namespace Exec

variable {α β : Type} {name : String}

/-- A variable has the same value after a computation as before, whether it fails or not. -/
def Leaves (name : String) (computation : Exec α) : Prop :=
  ∀ scope, (computation.outcome scope).2.get? name = scope.get? name

theorem leaves_pure (result : α) : Leaves name (pure result : Exec α) := fun _ => rfl

theorem leaves_read (f : Scope → Except ExecError α) : Leaves name (read f) := fun _ => rfl

theorem leaves_arithmetic (result : Except ArithmeticError Word) :
    Leaves name (arithmetic result) := by
  intro scope
  cases result <;> rfl

theorem leaves_assign {target : String} (different : name ≠ target) (value : Value) :
    Leaves name (assign target value) :=
  fun scope => FiniteMap.get?_insert_of_ne scope value different

theorem leaves_bind {computation : Exec α} {rest : α → Exec β} (first : Leaves name computation)
    (continued : ∀ result, Leaves name (rest result)) : Leaves name (computation >>= rest) := by
  intro scope
  have before := first scope
  rw [outcome_bind]
  revert before
  rcases computation.outcome scope with ⟨error | result, left⟩
  · exact fun before => before
  · exact fun before => (continued result left).trans before

theorem leaves_change {obstacle : Scope → Option ExecError} {f : Scope → Scope}
    (kept : ∀ scope, Entries.get? (f scope) name = scope.get? name) :
    Leaves name (change obstacle f) := by
  intro scope
  cases blocked : obstacle scope with
  | none =>
    rw [outcome_change_of_none blocked]
    exact kept scope
  | some error => rw [outcome_change_of_some blocked]

end Exec

namespace Memory

/-- A store leaves all but the stack and the memory. -/
theorem leaves_store {name : String} (notStack : name ≠ Variable.stack)
    (notMemory : name ≠ Variable.memory) (address : Word) (value : Value) :
    Exec.Leaves name (store address value) :=
  Exec.leaves_change fun _ => get?_write_of_ne notStack notMemory value

/-- A store at an address from zero up leaves the stack. -/
theorem leaves_stack_store {address : Word} (natural : 0 ≤ address) (value : Value) :
    Exec.Leaves Variable.stack (store address value) :=
  Exec.leaves_change fun _ => get?_stack_write_of_natural natural value

end Memory

/-- The operand that names the address of a store. -/
def Action.storedAt? : Action → Option String
  | .store address _ | .copy address _ => some address
  | _ => none

/-- Pushes, pops, calls and returns move the stack pointer. -/
def Action.movesPointer : Action → Bool
  | .push _ | .pop _ | .call _ | .ret => true
  | _ => false

namespace Machine

variable {name : String}

theorem leaves_operand (text : String) : Exec.Leaves name (operand text) := Exec.leaves_read _

theorem leaves_jump (notPointer : name ≠ Variable.instructionPointer) (destination : Word) :
    Exec.Leaves name (jump destination) :=
  Exec.leaves_bind (Exec.leaves_arithmetic _) fun _ => Exec.leaves_assign notPointer _

/-- What comes after an operand is read leaves a variable if it does so for the operand's word. -/
theorem get?_of_operand {scope : Scope} {text : String} {rest : Word → Exec Unit}
    (leaves : ∀ word, Operand.value scope text = .ok word → Exec.Leaves name (rest word)) :
    ((operand text >>= rest).outcome scope).2.get? name = scope.get? name := by
  cases stands : Operand.value scope text with
  | error error =>
    have failed : (operand text).outcome scope = (.error error, scope) := by
      rw [operand, Exec.outcome_read, stands]
    rw [Exec.outcome_bind_of_error failed]
  | ok word =>
    have read : (operand text).outcome scope = (.ok word, scope) :=
      Exec.outcome_read_of_ok stands
    rw [Exec.outcome_bind_of_ok read]
    exact leaves word stands scope

/-- An action that does not move the stack pointer leaves what is not its target and no part of the
machine's state, as long as its store does. -/
theorem get?_of_perform {scope : Scope} {action : Action} (ordinary : action.movesPointer = false)
    (notPointer : name ≠ Variable.instructionPointer) (notHalt : name ≠ Variable.haltFlag)
    (notBreak : name ≠ Variable.breakFlag) (notTarget : name ∉ action.target?)
    (stores : ∀ address ∈ action.storedAt?, ∀ word, Operand.value scope address = .ok word →
      ∀ value, Exec.Leaves name (Memory.store word value)) :
    ((perform action).outcome scope).2.get? name = scope.get? name := by
  have assigns {target : String} (assigned : target ∈ action.target?) (value : Value) :
      Exec.Leaves name (Exec.assign target value) := by
    refine Exec.leaves_assign ?_ value
    rintro rfl
    exact notTarget assigned
  cases action with
  | push _ => contradiction
  | pop _ => contradiction
  | call _ => contradiction
  | ret => contradiction
  | idle => rfl
  | halt => exact Exec.leaves_assign notHalt _ scope
  | pause => exact Exec.leaves_assign notBreak _ scope
  | jump destination =>
    exact Exec.leaves_bind (leaves_operand destination) (fun _ => leaves_jump notPointer _) scope
  | load target address =>
    exact Exec.leaves_bind (leaves_operand address) (fun _ =>
      Exec.leaves_bind (Exec.leaves_read _) fun _ => assigns rfl _) scope
  | store address value =>
    exact get?_of_operand fun word stands => Exec.leaves_bind (leaves_operand value) fun _ =>
      stores address rfl word stands _
  | copy address source =>
    exact get?_of_operand fun word stands => Exec.leaves_bind (leaves_operand source) fun _ =>
      Exec.leaves_bind (Exec.leaves_read _) fun _ => stores address rfl word stands _
  | assign target value =>
    exact Exec.leaves_bind (leaves_operand value) (fun _ => assigns rfl _) scope
  | unary op target value =>
    exact Exec.leaves_bind (leaves_operand value) (fun _ =>
      Exec.leaves_bind (Exec.leaves_arithmetic _) fun _ => assigns rfl _) scope
  | binary op target left right =>
    exact Exec.leaves_bind (leaves_operand left) (fun _ =>
      Exec.leaves_bind (leaves_operand right) fun _ =>
        Exec.leaves_bind (Exec.leaves_arithmetic _) fun _ => assigns rfl _) scope
  | branch test destination left right =>
    refine Exec.leaves_bind (leaves_operand destination) (fun position =>
      Exec.leaves_bind (leaves_operand left) fun left =>
        Exec.leaves_bind (leaves_operand right) fun right => ?_) scope
    split
    · exact leaves_jump notPointer position
    · exact Exec.leaves_pure ()

end Machine

end UrclDebugger
