import UrclDebugger.FiniteMap.Lemmas
import UrclDebugger.Proofs.Snapshot.Registers
import UrclDebugger.Snapshot.History
import UrclDebugger.Urcl

/-!
# What a snapshot is made of

An engine may keep its variables as it likes, as long as it lists each of them once and starts from
a scope without any (`LawfulEngine`). A snapshot of such a scope shows every register and every
memory cell once, so an entry of it is found by its name or its address.
-/

namespace UrclDebugger

/-- What an engine is expected to know about its variables. -/
class LawfulEngine (σ : Type) [Engine σ] : Prop where
  /-- No variable is listed twice. -/
  nodup_names : ∀ scope : σ, (Engine.names scope).Nodup
  /-- The variables that are bound are the ones that are listed. -/
  mem_names : ∀ (scope : σ) (name : String),
    name ∈ Engine.names scope ↔ (Engine.read scope name).isSome = true
  /-- A fresh scope has no variables. -/
  read_fresh : ∀ name : String, Engine.read (Engine.fresh : σ) name = none

instance : LawfulEngine Scope where
  nodup_names scope := scope.nodup_keys
  mem_names scope name := Entries.mem_keys scope name
  read_fresh _ := rfl

namespace LawfulEngine

variable {σ : Type} [Engine σ] [LawfulEngine σ]

theorem names_fresh : Engine.names (Engine.fresh : σ) = [] := by
  rw [List.eq_nil_iff_forall_not_mem]
  intro name listed
  have bound := (mem_names _ name).mp listed
  rw [read_fresh] at bound
  contradiction

end LawfulEngine

/-- Gaps hold no text. -/
theorem MemoryRow.cellTexts_layoutAfter (last : Word) (cells : List (Word × String)) :
    (layoutAfter last cells).filterMap (fun
      | .gap => none
      | .cell address text => some (address, text)) = cells := by
  induction cells generalizing last with
  | nil => rfl
  | cons cell rest ih =>
    obtain ⟨address, text⟩ := cell
    rw [layoutAfter]
    split <;> simp [ih]

namespace Snapshot

/-- The value that a snapshot shows for a register. -/
def register? (snapshot : Snapshot) (name : String) : Option Value :=
  (snapshot.registers.find? fun register => register.name = name).map Register.value

/-- The text that a snapshot shows for a memory cell. -/
def cell? (snapshot : Snapshot) (address : Word) : Option String :=
  (History.cellTexts snapshot).lookup address

theorem addresses_eq (snapshot : Snapshot) :
    snapshot.addresses = (History.cellTexts snapshot).map Prod.fst := by
  unfold addresses History.cellTexts
  rw [List.map_filterMap]
  congr 1
  funext row
  cases row <;> rfl

/-- Every entry of a snapshot has its own name or address, and what is shown as a register is
one. -/
structure Distinct (snapshot : Snapshot) : Prop where
  names : (snapshot.registers.map Register.name).Nodup
  addresses : snapshot.addresses.Nodup
  kinds : ∀ register ∈ snapshot.registers, register.value.isRegister = true

variable {σ : Type} [Engine σ]

/-- The registers are the bound variables of the right kind. -/
theorem mem_registersOf (scope : σ) (register : Register) :
    register ∈ registersOf scope ↔ register.name ∈ Engine.names scope ∧
      Engine.read scope register.name = some register.value ∧
      register.value.isRegister = true := by
  rw [registersOf_eq_registersAmong, mem_registersAmong]

section Lawful

variable [LawfulEngine σ]

/-- An engine enumerates its variables. -/
theorem enumerates_names (scope : σ) : Enumerates scope (Engine.names scope) where
  nodup := LawfulEngine.nodup_names scope
  mem := LawfulEngine.mem_names scope

theorem nodup_registersOf (scope : σ) : ((registersOf scope).map Register.name).Nodup := by
  rw [registersOf_eq_registersAmong]
  exact nodup_registersAmong scope (LawfulEngine.nodup_names scope)

theorem extract_fresh : extract (Engine.fresh : σ) = {} := by
  have registers : registersOf (Engine.fresh : σ) = [] := by
    rw [registersOf, LawfulEngine.names_fresh, List.filterMap_nil, Register.sort,
      List.mergeSort_nil]
  unfold extract extractWithLog programOf stackOf memoryOf
  simp only [registers, LawfulEngine.read_fresh]
  rfl

end Lawful

/-- The cells that are shown are those of the memory. -/
theorem cellTexts_of_memory {scope : σ} {cells : FiniteMap Word Value}
    (memory : Engine.read scope Variable.memory = some (.map cells)) :
    History.cellTexts (extract scope) =
      cells.toList.map fun (address, value) => (address, value.render) := by
  simp only [History.cellTexts, extract, extractWithLog, memoryOf, memory]
  exact MemoryRow.cellTexts_layoutAfter _ _

theorem cellTexts_extract (scope : σ) :
    ∃ cells : FiniteMap Word Value, History.cellTexts (extract scope) =
      cells.toList.map fun (address, value) => (address, value.render) := by
  cases memory : Engine.read scope Variable.memory with
  | none =>
    refine ⟨∅, ?_⟩
    simp only [History.cellTexts, extract, extractWithLog, memoryOf, memory]
    rfl
  | some value =>
    cases value with
    | map cells => exact ⟨cells, cellTexts_of_memory memory⟩
    | _ =>
      refine ⟨∅, ?_⟩
      simp only [History.cellTexts, extract, extractWithLog, memoryOf, memory]
      rfl

theorem distinct_extract [LawfulEngine σ] (scope : σ) : (extract scope).Distinct where
  names := nodup_registersOf scope
  addresses := by
    obtain ⟨cells, shown⟩ := cellTexts_extract scope
    rw [addresses_eq, shown, List.map_map]
    exact cells.nodup_keys
  kinds register listed := ((mem_registersOf scope register).mp listed).2.2

end Snapshot

end UrclDebugger
