import UrclDebugger.Proofs.Machine.Refinement

/-!
# Types of an assembled program's variables

While steps are taken, a loaded program keeps its variables and the type of each of them, also after
steps that fail half way. What is read as a word therefore is one, and the only errors left are
faults of the program.
-/

namespace UrclDebugger

/-- Every variable that the machine works on has the type that it works with, and the stack has at
most two to the power of twenty cells. -/
structure WellTyped (scope : Scope) : Prop where
  pointer : ∃ word, scope.get? Variable.instructionPointer = some (.int word)
  stackPointer : ∃ word, scope.get? Variable.stackPointer = some (.int word)
  registers : ∀ name value, Operand.isRegister name = true → scope.get? name = some value →
    ∃ word, value = .int word
  flags : ∀ name ∈ [Variable.haltFlag, Variable.breakFlag, Variable.stepFlag],
    ∃ flag, scope.get? name = some (.bool flag)
  memory : ∃ cells, scope.get? Variable.memory = some (.map cells) ∧
    ∀ address value, cells.get? address = some value → 0 ≤ address ∧ ∃ word, value = .int word
  stack : ∃ cells, scope.get? Variable.stack = some (.list cells) ∧ cells.size ≤ 1048576 ∧
    ∀ value ∈ cells, ∃ word, value = .int word

/-- The variables of a loaded program are all there, and what steps do not work on is as it was
loaded. -/
structure Settled (loaded scope : Scope) : Prop where
  names : ∀ name, name ∈ Engine.names scope ↔ name ∈ Engine.names loaded
  program : scope.get? Variable.program = loaded.get? Variable.program
  entry : scope.get? Variable.entry = loaded.get? Variable.entry
  labels : ∀ rest, scope.get? ("LABEL_" ++ rest) = loaded.get? ("LABEL_" ++ rest)

namespace Reference

variable {program : Program} {scope : Scope} {state : State}

theorem IsMemory.typed {bound : Option Value} {memory : Word → Word}
    (isMemory : IsMemory bound memory) :
    ∃ cells, bound = some (.map cells) ∧
      ∀ address value, cells.get? address = some value →
        0 ≤ address ∧ ∃ word, value = .int word := by
  obtain ⟨cells, here, natKeys, contents⟩ := isMemory
  refine ⟨cells, here, fun address value found => ?_⟩
  have natural := natKeys address value found
  have word := contents address natural
  rw [found] at word
  exact ⟨natural, memory address, word⟩

/-- Each cell of a stack that is not too long has an address. -/
theorem exists_stackIndex {index : Nat} (inside : index < Memory.stackLimit) :
    ∃ address : Word, address < 0 ∧ Memory.stackIndex address = index := by
  have bounded : index < 1048576 := inside
  have exact : (Int64.ofInt (-(index + 1 : Nat))).toInt = -(index + 1 : Nat) :=
    Int64.toInt_ofInt_of_le (by omega) (by omega)
  have negative : Int64.ofInt (-(index + 1 : Nat)) < 0 := by
    rw [Int64.lt_iff_toInt_lt, exact, Int64.toInt_zero]
    omega
  refine ⟨_, negative, ?_⟩
  have here := Memory.stackIndex_of_neg negative
  omega

theorem IsStack.typed {bound : Option Value} {memory : Word → Word}
    (isStack : IsStack bound memory) :
    ∃ cells, bound = some (.list cells) ∧ cells.size ≤ 1048576 ∧
      ∀ value ∈ cells, ∃ word, value = .int word := by
  obtain ⟨cells, here, bounded, contents⟩ := isStack
  refine ⟨cells, here, bounded, fun value member => ?_⟩
  obtain ⟨index, inside, found⟩ := Array.mem_iff_getElem.mp member
  obtain ⟨address, negative, same⟩ := exists_stackIndex (Nat.lt_of_lt_of_le inside bounded)
  have word := contents address negative
  rw [same, Array.getElem?_eq_getElem inside, found] at word
  exact ⟨memory address, word⟩

/-- A variable that steps work on is bound. -/
theorem Represents.exists_of_mutable (represents : Represents program scope state) {name : String}
    (mutable : Mutable program name) : ∃ value, scope.get? name = some value := by
  have shown := represents.shown name mutable
  unfold Shows at shown
  split at shown
  · obtain ⟨cells, bound, _⟩ := shown
    exact ⟨_, bound⟩
  split at shown
  · obtain ⟨cells, bound, _⟩ := shown
    exact ⟨_, bound⟩
  split at shown
  · exact ⟨_, shown⟩
  split at shown
  · exact ⟨_, shown⟩
  split at shown
  · exact ⟨_, shown⟩
  split at shown
  · obtain ⟨flag, bound⟩ := shown
    exact ⟨_, bound⟩
  · exact ⟨_, shown⟩

end Reference

section Reachable

open Reference

variable {program : Program} {source : Source} {scope : Scope}

theorem mem_names {name : String} :
    name ∈ Engine.names scope ↔ ∃ value, scope.get? name = some value := by
  rw [← Option.isSome_iff_exists]
  exact Entries.mem_keys scope name

variable (urcl : source.extension? = some "urcl")
  (assembled : Program.assemble source.text = .ok program) (reachable : Reachable source scope)
include urcl assembled reachable

/-- What steps do not work on is as it was loaded. -/
theorem get?_of_reachable {name : String} (immutable : ¬ Mutable program name) :
    scope.get? name = (Engine.load (Engine.fresh : Scope) source).scope.get? name := by
  induction reachable with
  | loaded => rfl
  | stepped earlier ih =>
    obtain ⟨state, represents⟩ := exists_represents urcl assembled earlier
    rw [represents.get?_step (Program.accepted_of_assemble assembled) immutable, ih]

theorem wellTyped_of_reachable : WellTyped scope := by
  obtain ⟨state, represents⟩ := exists_represents urcl assembled reachable
  refine ⟨⟨_, represents.pointer⟩, ⟨_, represents.register program.stackPointer_mem_registers⟩,
    ?_, ?_, represents.memory.typed, represents.stack.typed⟩
  · intro name value isRegister bound
    by_cases member : name ∈ program.registers
    · rw [represents.register member] at bound
      exact ⟨_, (Option.some.inj bound).symm⟩
    · have immutable : ¬ Mutable program name :=
        not_mutable_of_not_mem_own member (Operand.not_mem_own_of_isRegister isRegister)
      rw [get?_of_reachable urcl assembled reachable immutable,
        Urcl.scope_load urcl assembled] at bound
      exact nomatch (Program.get?_bind_of_not_mem_registers isRegister member).symm.trans bound
  · intro name member
    simp only [List.mem_cons, List.not_mem_nil, or_false] at member
    rcases member with rfl | rfl | rfl
    · exact ⟨_, represents.halted⟩
    · exact ⟨_, represents.paused⟩
    · exact represents.stepFlag

theorem settled_of_reachable :
    Settled (Engine.load (Engine.fresh : Scope) source).scope scope := by
  have carried {name : String} (immutable : ¬ Mutable program name) :
      scope.get? name = (Engine.load (Engine.fresh : Scope) source).scope.get? name :=
    get?_of_reachable urcl assembled reachable immutable
  refine ⟨fun name => ?_, carried not_mutable_program, carried not_mutable_entry,
    fun rest => carried (not_mutable_label_append rest)⟩
  rw [mem_names, mem_names]
  by_cases mutable : Mutable program name
  · obtain ⟨state, represents⟩ := exists_represents urcl assembled reachable
    have begun : Reachable source (Engine.load (Engine.fresh : Scope) source).scope := .loaded
    obtain ⟨first, start⟩ := exists_represents urcl assembled begun
    exact iff_of_true (represents.exists_of_mutable mutable) (start.exists_of_mutable mutable)
  · rw [carried mutable]

/-- A step of an assembled program fails with a fault of the program only. -/
theorem fault_of_step {error : ExecError} (failed : (Engine.step scope).1 = .error error) :
    Fault program error := by
  obtain ⟨state, represents⟩ := exists_represents urcl assembled reachable
  have agrees := represents.step_agrees (Program.accepted_of_assemble assembled)
  exact agrees.fault failed

/-- Assembled programs are type safe over whole runs: in every scope that is reached, also after
failed steps, the variables are those that were loaded, each with its type, and what steps do not
work on is as it was loaded. A step fails with a fault of the program only, so never for want of a
register, for a value of a wrong type or for an instruction that is none. -/
theorem typeSafe_of_reachable :
    WellTyped scope ∧ Settled (Engine.load (Engine.fresh : Scope) source).scope scope ∧
      ∀ error, (Engine.step scope).1 = .error error → Fault program error :=
  ⟨wellTyped_of_reachable urcl assembled reachable, settled_of_reachable urcl assembled reachable,
    fun _ => fault_of_step urcl assembled reachable⟩

end Reachable

/-- The counting program after its first step. -/
theorem typeSafe_of_reachable_counter :
    counterSource.extension? = some "urcl" ∧
      Program.assemble counterSource.text = .ok counter ∧
      Reachable counterSource (Engine.step (counter.bind ∅)).2 ∧
      WellTyped (Engine.step (counter.bind ∅)).2 := by
  have urcl : counterSource.extension? = some "urcl" := by decide
  have assembled : Program.assemble counterSource.text = .ok counter := rfl
  have reachable : Reachable counterSource (Engine.step (counter.bind ∅)).2 :=
    .stepped (Urcl.scope_load urcl assembled ∅ ▸ .loaded)
  exact ⟨urcl, assembled, reachable, (typeSafe_of_reachable urcl assembled reachable).1⟩

end UrclDebugger
