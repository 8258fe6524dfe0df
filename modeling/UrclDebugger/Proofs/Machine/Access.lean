import UrclDebugger.Proofs.Machine.Address
import UrclDebugger.Proofs.Machine.Effects

/-!
# Storing, loading, pushing, popping and jumping

What the accesses to the address space end with. A store that nothing stands against is read back
from its address, on both sides of zero. A push is a store below the stack pointer, and a pop is
a load at the stack pointer as long as that is negative. A jump and the move that follows every
instruction set the instruction pointer.
-/

namespace UrclDebugger

theorem Scope.requireInt_eq_ok_iff {scope : Scope} {name : String} {word : Word} :
    scope.requireInt name = .ok word ↔ scope.get? name = some (.int word) := by
  unfold requireInt
  cases scope.get? name with
  | none => simp
  | some value => cases value <;> simp

namespace Exec

variable {α β : Type} {computation : Exec α} {rest : α → Exec β} {scope left middle : Scope}

/-- A computation that ends well has parts that end well. -/
theorem exists_of_outcome_bind {result : β}
    (ended : (computation >>= rest).outcome scope = (.ok result, left)) :
    ∃ value middle, computation.outcome scope = (.ok value, middle) ∧
      (rest value).outcome middle = (.ok result, left) := by
  rw [outcome_bind] at ended
  rcases first : computation.outcome scope with ⟨error | value, middle⟩
  · rw [first] at ended
    cases ended
  · rw [first] at ended
    exact ⟨value, middle, rfl, ended⟩

/-- A computation that fails has failed in its first part or in the rest. -/
theorem failed_part_of_outcome_bind {error : ExecError}
    (failed : (computation >>= rest).outcome scope = (.error error, left)) :
    computation.outcome scope = (.error error, left) ∨
      ∃ result middle, computation.outcome scope = (.ok result, middle) ∧
        (rest result).outcome middle = (.error error, left) := by
  rw [outcome_bind] at failed
  rcases first : computation.outcome scope with ⟨_ | result, middle⟩
  · rw [first] at failed
    cases failed
    exact .inl rfl
  · rw [first] at failed
    exact .inr ⟨result, middle, rfl, failed⟩

theorem outcome_bind_of_ok {value : α} (first : computation.outcome scope = (.ok value, middle)) :
    (computation >>= rest).outcome scope = (rest value).outcome middle := by
  rw [outcome_bind, first]

theorem outcome_bind_of_error {error : ExecError}
    (first : computation.outcome scope = (.error error, middle)) :
    (computation >>= rest).outcome scope = (.error error, middle) := by
  rw [outcome_bind, first]

theorem outcome_read_eq_ok_iff {f : Scope → Except ExecError α} {value : α} :
    (Exec.read f).outcome scope = (.ok value, left) ↔ f scope = .ok value ∧ scope = left := by
  rw [outcome_read, Prod.mk.injEq]

theorem outcome_read_of_ok {f : Scope → Except ExecError α} {value : α}
    (read : f scope = .ok value) : (Exec.read f).outcome scope = (.ok value, scope) :=
  outcome_read_eq_ok_iff.mpr ⟨read, rfl⟩

end Exec

namespace Memory

variable {one other scope : Scope} {address top : Word}

/-- A load looks at the stack and the memory only. -/
theorem load_eq_load (stack : one.get? Variable.stack = other.get? Variable.stack)
    (memory : one.get? Variable.memory = other.get? Variable.memory) (address : Word) :
    load one address = load other address := by
  simp only [load, stack, memory]

/-- What stands against a store is decided by the stack and the memory only. -/
theorem obstacle?_eq_obstacle? (stack : one.get? Variable.stack = other.get? Variable.stack)
    (memory : one.get? Variable.memory = other.get? Variable.memory) (address : Word) :
    obstacle? address one = obstacle? address other := by
  simp only [obstacle?, stack, memory]

/-- A store changes the stack or the memory only. -/
theorem get?_write_of_ne {name : String} (notStack : name ≠ Variable.stack)
    (notMemory : name ≠ Variable.memory) (value : Value) :
    (write address value scope).get? name = scope.get? name := by
  unfold write
  split
  · rw [FiniteMap.get?_alter, if_neg notStack]
  · rw [FiniteMap.get?_alter, if_neg notMemory]

section Containers

variable {cells : Array Value} {entries : FiniteMap Word Value}

theorem load_of_neg (stack : scope.get? Variable.stack = some (.list cells))
    (negative : address < 0) :
    load scope address = .ok ((cells[stackIndex address]?).getD (.int 0)) := by
  rw [load, if_pos negative, stack]

theorem load_of_natural (memory : scope.get? Variable.memory = some (.map entries))
    (natural : 0 ≤ address) :
    load scope address = .ok ((entries.get? address).getD (.int 0)) := by
  rw [load, if_neg (Int64.not_lt.mpr natural), memory]

theorem get?_stack_write (stack : scope.get? Variable.stack = some (.list cells))
    (negative : address < 0) (value : Value) :
    (write address value scope).get? Variable.stack =
      some (.list (writeCell cells (stackIndex address) value)) := by
  rw [write, if_pos negative, FiniteMap.get?_alter, if_pos rfl, stack, writeStack]

theorem get?_stack_write_of_natural (natural : 0 ≤ address) (value : Value) :
    (write address value scope).get? Variable.stack = scope.get? Variable.stack := by
  rw [write, if_neg (Int64.not_lt.mpr natural), FiniteMap.get?_alter, if_neg (by decide)]

theorem get?_memory_write (memory : scope.get? Variable.memory = some (.map entries))
    (natural : 0 ≤ address) (value : Value) :
    (write address value scope).get? Variable.memory =
      some (.map (FiniteMap.insert entries address value)) := by
  rw [write, if_neg (Int64.not_lt.mpr natural), FiniteMap.get?_alter, if_pos rfl, memory,
    writeMemory]

theorem get?_memory_write_of_neg (negative : address < 0) (value : Value) :
    (write address value scope).get? Variable.memory = scope.get? Variable.memory := by
  rw [write, if_pos negative, FiniteMap.get?_alter, if_neg (by decide)]

end Containers

/-- What is stored at an address is loaded from it. -/
theorem load_write (free : obstacle? address scope = none) (value : Value) :
    load (write address value scope) address = .ok value := by
  unfold obstacle? at free
  by_cases negative : address < 0
  · rw [if_pos negative] at free
    split at free
    · contradiction
    · split at free
      · rename_i cells bound
        rw [load_of_neg (get?_stack_write bound negative value) negative, getElem?_writeCell,
          if_pos rfl, Option.getD_some]
      · contradiction
      · contradiction
  · rw [if_neg negative] at free
    have written : ∃ cells : FiniteMap Word Value,
        (write address value scope).get? Variable.memory =
          some (.map (FiniteMap.insert cells address value)) := by
      split at free
      · rename_i unbound
        refine ⟨∅, ?_⟩
        rw [write, if_neg negative, FiniteMap.get?_alter, if_pos rfl, unbound, writeMemory]
      · rename_i cells bound
        exact ⟨cells, get?_memory_write bound (Int64.not_lt.mp negative) value⟩
      · contradiction
    obtain ⟨cells, bound⟩ := written
    rw [load_of_natural bound (Int64.not_lt.mp negative), FiniteMap.get?_insert_self,
      Option.getD_some]

section Pointer

variable (bound : scope.get? Variable.stackPointer = some (.int top))

include bound

/-- A push is a store at the address below the stack pointer, which is lowered before. -/
theorem outcome_push (notLeast : top ≠ Int64.minValue) (value : Value) :
    (push value).outcome scope =
      (store (top - 1) value).outcome (scope.insert Variable.stackPointer (.int (top - 1))) := by
  have pointer : scope.requireInt Variable.stackPointer = .ok top :=
    Scope.requireInt_eq_ok_iff.mpr bound
  have lowered : Alu.Binary.sub.apply top 1 = .ok (top - 1) := by
    rw [Alu.Binary.apply, Word.sub?_one, if_neg notLeast]
    rfl
  simp only [push, Exec.outcome_bind, Exec.outcome_read, pointer, lowered,
    Exec.outcome_arithmetic_ok, Exec.outcome_assign]

/-- Below the least address there is no room. -/
theorem outcome_push_of_least (least : top = Int64.minValue) (value : Value) :
    (push value).outcome scope = (.error (.arithmetic .overflow), scope) := by
  have pointer : scope.requireInt Variable.stackPointer = .ok top :=
    Scope.requireInt_eq_ok_iff.mpr bound
  have lowered : Alu.Binary.sub.apply top 1 = .error .overflow := by
    rw [Alu.Binary.apply, Word.sub?_one, if_pos least]
    rfl
  simp only [push, Exec.outcome_bind, Exec.outcome_read, pointer, lowered,
    Exec.outcome_arithmetic_error]

/-- A push that ends well has stored its value. -/
theorem free_of_push {value : Value} {left : Scope}
    (pushed : (push value).outcome scope = (.ok (), left)) :
    top ≠ Int64.minValue ∧ obstacle? (top - 1) scope = none ∧
      left = write (top - 1) value (scope.insert Variable.stackPointer (.int (top - 1))) := by
  have notLeast : top ≠ Int64.minValue := by
    intro least
    rw [outcome_push_of_least bound least] at pushed
    cases pushed
  rw [outcome_push bound notLeast, store] at pushed
  have alike : obstacle? (top - 1) (scope.insert Variable.stackPointer (.int (top - 1))) =
      obstacle? (top - 1) scope :=
    obstacle?_eq_obstacle? (FiniteMap.get?_insert_of_ne _ _ (by decide))
      (FiniteMap.get?_insert_of_ne _ _ (by decide)) _
  cases free : obstacle? (top - 1) scope with
  | some error =>
    rw [Exec.outcome_change_of_some (alike.trans free)] at pushed
    cases pushed
  | none =>
    rw [Exec.outcome_change_of_none (alike.trans free)] at pushed
    exact ⟨notLeast, rfl, (congrArg Prod.snd pushed).symm⟩

/-- A pop takes the value at the stack pointer, which is raised. -/
theorem outcome_pop_of_neg (negative : top < 0) {value : Value}
    (read : load scope top = .ok value) :
    pop.outcome scope = (.ok value, scope.insert Variable.stackPointer (.int (top + 1))) := by
  have pointer : scope.requireInt Variable.stackPointer = .ok top :=
    Scope.requireInt_eq_ok_iff.mpr bound
  have notNatural : ¬ 0 ≤ top := Int64.not_le.mpr negative
  simp only [pop, Exec.outcome_bind, Exec.outcome_read, pointer, notNatural, ↓reduceIte,
    Exec.outcome_pure, read, Exec.outcome_assign]

/-- Nothing is popped where the stack pointer is not negative. -/
theorem outcome_pop_of_natural (natural : 0 ≤ top) :
    pop.outcome scope = (.error .stackUnderflow, scope) := by
  have pointer : scope.requireInt Variable.stackPointer = .ok top :=
    Scope.requireInt_eq_ok_iff.mpr bound
  simp only [pop, Exec.outcome_bind, Exec.outcome_read, pointer, natural, ↓reduceIte,
    Exec.outcome_throw]

end Pointer

section Pushed

variable {value : Value} {left : Scope}
  (pushed : (push value).outcome scope = (.ok (), left))

include pushed

/-- Nothing is pushed without a stack pointer. -/
theorem exists_pointer_of_push : ∃ top, scope.get? Variable.stackPointer = some (.int top) := by
  obtain ⟨top, _, read, _⟩ := Exec.exists_of_outcome_bind pushed
  exact ⟨top, Scope.requireInt_eq_ok_iff.mp (Exec.outcome_read_eq_ok_iff.mp read).1⟩

/-- A push changes the stack pointer and the stack or the memory only. -/
theorem get?_of_push {name : String} (notPointer : name ≠ Variable.stackPointer)
    (notStack : name ≠ Variable.stack) (notMemory : name ≠ Variable.memory) :
    left.get? name = scope.get? name := by
  obtain ⟨top, bound⟩ := exists_pointer_of_push pushed
  obtain ⟨_, _, rfl⟩ := free_of_push bound pushed
  rw [get?_write_of_ne notStack notMemory, FiniteMap.get?_insert_of_ne _ _ notPointer]

end Pushed

end Memory

namespace Machine

variable {scope : Scope} {pointer destination : Word}

theorem outcome_moveOn (bound : scope.get? Variable.instructionPointer = some (.int pointer)) :
    moveOn.outcome scope =
      (.ok (), scope.insert Variable.instructionPointer (.int (pointer + 1))) :=
  Exec.outcome_bind_of_ok (Exec.outcome_read_of_ok (Scope.requireInt_eq_ok_iff.mpr bound))

/-- A jump sets the instruction pointer one short of its destination. -/
theorem outcome_jump (notLeast : destination ≠ Int64.minValue) :
    (jump destination).outcome scope =
      (.ok (), scope.insert Variable.instructionPointer (.int (destination - 1))) := by
  have short : Alu.Binary.sub.apply destination 1 = .ok (destination - 1) := by
    rw [Alu.Binary.apply, Word.sub?_one, if_neg notLeast]
    rfl
  rw [jump, short]
  exact Exec.outcome_bind_of_ok (Exec.outcome_arithmetic_ok _ scope)

/-- There is no place before the least destination. -/
theorem outcome_jump_of_least (scope : Scope) :
    (jump Int64.minValue).outcome scope = (.error (.arithmetic .overflow), scope) := by
  have none : Alu.Binary.sub.apply Int64.minValue 1 = .error .overflow := by
    rw [Alu.Binary.apply, Word.sub?_one, if_pos rfl]
    rfl
  rw [jump, none]
  exact Exec.outcome_bind_of_error (Exec.outcome_arithmetic_error _ scope)

end Machine

end UrclDebugger
