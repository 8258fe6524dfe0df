import UrclDebugger.Proofs.Machine.Access
import UrclDebugger.Urcl

/-!
# One address space

Addresses from zero up are keys of the memory map and negative ones are cells of the stack list, and
what is in neither container is zero. Seen through loads the two are one space: a store is read back
from its address and from no other, although it may have made the stack grow by many cells, and
nothing but the limit of the stack stands against it (`store_in_one_space`).
-/

namespace UrclDebugger.Memory

variable {scope : Scope} {cells : Array Value} {entries : FiniteMap Word Value}
  {address other : Word}

/-- Where there is a list and a map every address can be loaded from. -/
theorem exists_load (stack : scope.get? Variable.stack = some (.list cells))
    (memory : scope.get? Variable.memory = some (.map entries)) (address : Word) :
    ∃ loaded, load scope address = .ok loaded := by
  by_cases negative : address < 0
  · exact ⟨_, load_of_neg stack negative⟩
  · exact ⟨_, load_of_natural memory (Int64.not_lt.mp negative)⟩

section Write

variable (stack : scope.get? Variable.stack = some (.list cells))
  (memory : scope.get? Variable.memory = some (.map entries))

include stack memory

/-- What is stored at an address is loaded from no other. -/
theorem load_write_of_ne (different : other ≠ address) (value : Value) :
    load (write address value scope) other = load scope other := by
  by_cases below : address < 0
  · have written := get?_stack_write stack below value
    by_cases negative : other < 0
    · have apart : stackIndex other ≠ stackIndex address :=
        mt (stackIndex_inj below negative).mp different
      rw [load_of_neg written negative, load_of_neg stack negative,
        getD_writeCell_of_ne apart value]
    · have natural := Int64.not_lt.mp negative
      have kept := (get?_memory_write_of_neg below value).trans memory
      rw [load_of_natural kept natural, load_of_natural memory natural]
  · have above := Int64.not_lt.mp below
    have written := get?_memory_write memory above value
    by_cases negative : other < 0
    · have kept := (get?_stack_write_of_natural above value).trans stack
      rw [load_of_neg kept negative, load_of_neg stack negative]
    · have natural := Int64.not_lt.mp negative
      rw [load_of_natural written natural, load_of_natural memory natural,
        FiniteMap.get?_insert_of_ne _ _ different]

end Write

/-- What a store of a value at an address makes of a scope. -/
structure StoredAt (address : Word) (value : Value) (before after : Scope) : Prop where
  here : load after address = .ok value
  elsewhere : ∀ other, other ≠ address → load after other = load before other
  memory : address < 0 → after.get? Variable.memory = before.get? Variable.memory
  stack : 0 ≤ address → after.get? Variable.stack = before.get? Variable.stack
  /-- The stack reaches down to the address or has the length that it had. -/
  length : address < 0 → ∀ cells, before.get? Variable.stack = some (.list cells) →
    ∃ grown, after.get? Variable.stack = some (.list grown) ∧
      grown.size = max cells.size (-address.toInt).toNat
  others : ∀ name, name ≠ Variable.stack → name ≠ Variable.memory →
    after.get? name = before.get? name

section Store

variable (stack : scope.get? Variable.stack = some (.list cells))
  (memory : scope.get? Variable.memory = some (.map entries))

include stack memory

theorem storedAt_write (fits : ¬ address.toInt < -1048576) (value : Value) :
    StoredAt address value scope (write address value scope) where
  here := load_write (by rw [obstacle?_of_containers stack memory, if_neg fits]) value
  elsewhere _ different := load_write_of_ne stack memory different value
  memory negative := get?_memory_write_of_neg negative value
  stack natural := get?_stack_write_of_natural natural value
  length := by
    intro negative old bound
    have index := stackIndex_of_neg negative
    refine ⟨_, get?_stack_write bound negative value, ?_⟩
    rw [size_writeCell]
    congr 1
    omega
  others _ notStack notMemory := get?_write_of_ne notStack notMemory value

/-- As long as the stack is a list and the memory is a map the two are one address space. Every
address can be loaded from. A store fails exactly if its address is below minus two to the power of
twenty, and then it changes nothing; otherwise its value is read back from its address, all other
addresses read as before, and nothing but the container of the address has changed. -/
theorem store_in_one_space (address : Word) (value : Value) :
    (∀ other, ∃ loaded, load scope other = .ok loaded) ∧
      if address.toInt < -1048576 then
        (store address value).outcome scope = (.error (.stackAddress address), scope)
      else
        ∃ left, (store address value).outcome scope = (.ok (), left) ∧
          StoredAt address value scope left := by
  refine ⟨exists_load stack memory, ?_⟩
  have obstacle := obstacle?_of_containers stack memory address
  split
  · rename_i below
    rw [if_pos below] at obstacle
    exact Exec.outcome_change_of_some obstacle _
  · rename_i fits
    rw [if_neg fits] at obstacle
    exact ⟨_, Exec.outcome_change_of_none obstacle _, storedAt_write stack memory fits value⟩

end Store

/-- The state of a machine without a program. -/
def blank : Scope := Program.bindState ∅

/-- A store three cells below an empty stack makes it three cells long, and the cell on top of it
still reads as zero. -/
theorem store_in_one_space_deep :
    blank.get? Variable.stack = some (.list #[]) ∧ blank.get? Variable.memory = some (.map ∅) ∧
      ∃ left, (store (-3) (.int 7)).outcome blank = (.ok (), left) ∧
        load left (-3) = .ok (.int 7) ∧ load left (-1) = .ok (.int 0) ∧
        ∃ grown, left.get? Variable.stack = some (.list grown) ∧ grown.size = 3 := by
  have stack : blank.get? Variable.stack = some (.list #[]) := rfl
  have memory : blank.get? Variable.memory = some (.map ∅) := rfl
  obtain ⟨left, stored, holds⟩ := (store_in_one_space stack memory (-3) (.int 7)).2
  exact ⟨stack, memory, left, stored, holds.here, holds.elsewhere (-1) (by decide),
    holds.length (by decide) _ stack⟩

end UrclDebugger.Memory
