import UrclDebugger.Proofs.Machine.Hosting
import UrclDebugger.Proofs.Snapshot.Extract
import UrclDebugger.Proofs.Snapshot.Sequence

/-!
# What a snapshot foretells

A snapshot is taken by expressions and shows texts; the machine fetches objects and computes indices
of its own. In a scope that hosts a program both speak of the same things: the highlighted
instruction is the one that a step attempts, the highlighted cell of the stack is the one that is
popped next, and a row of the memory is what a load of its address reads.
-/

namespace UrclDebugger

/-- A step attempts an instruction: it performs the action that the instruction is decoded to, and
moves the pointer on if that does not fail. -/
def Machine.Attempts (scope : Scope) (instruction : Instruction) : Prop :=
  ∃ op action, Opcode.ofMnemonic? instruction.operation = some op ∧
    Action.of? op instruction.operands = some action ∧
    Engine.step scope = (do perform action; moveOn).outcome (prepared scope)

namespace Snapshot

/-- What a snapshot shows comes true when the machine goes on from a scope. A step performs its
instruction in the scope with its two flags set. -/
structure Foretells (snapshot : Snapshot) (scope : Scope) : Prop where
  /-- The highlighted instruction is attempted next, and without one the pointer is out of
  bounds. -/
  current : ∀ listing, snapshot.program = some listing →
    scope.get? Variable.haltFlag = some (.bool false) →
    match listing.current? with
    | some index => ∃ instruction items, listing.instructions[index]? = some instruction.text ∧
        scope.get? Variable.program = some (.list items) ∧
        items[index]? = some instruction.toValue ∧ Machine.Attempts scope instruction
    | none => (Engine.step scope).1 = .error .pointerOutOfBounds
  /-- The highlighted cell is popped next, and without one nothing is popped or zero. -/
  top : ∀ view, snapshot.stack = some view →
    match view.active? with
    | some index => ∃ value left, Memory.pop.outcome (Machine.prepared scope) = (.ok value, left) ∧
        view.cells[index]? = some value.render
    | none => (Memory.pop.outcome (Machine.prepared scope)).1 = .error .stackUnderflow ∨
        (Memory.pop.outcome (Machine.prepared scope)).1 = .ok (.int 0)
  /-- A load reads what the row of its address shows, and without one zero. -/
  memory : snapshot.program.isSome = true → ∀ address, 0 ≤ address →
    ∃ value, Memory.load (Machine.prepared scope) address = .ok value ∧
      match snapshot.cell? address with
      | some text => value.render = text
      | none => value = .int 0
  /-- Where no program is shown there is none to be run. -/
  idle : snapshot.program = none → (Engine.step scope).1 = .error (.undefined Variable.entry)

theorem foretells_of_vacant {scope : Scope} (vacant : scope.Vacant) :
    (extract scope).Foretells scope := by
  have noProgram : Engine.read scope Variable.program = none := vacant _ (by decide)
  have noStack : Engine.read scope Variable.stack = none := vacant _ (by decide)
  have program : (extract scope).program = none := by
    simp only [extract, extractWithLog, programOf, noProgram]
    rfl
  have stack : (extract scope).stack = none := by
    simp only [extract, extractWithLog, stackOf, noStack]
    rfl
  constructor
  · intro listing shown
    rw [program] at shown
    contradiction
  · intro view shown
    rw [stack] at shown
    contradiction
  · intro shown
    rw [program] at shown
    contradiction
  · intro _
    rw [vacant.step]

end Snapshot

/-- Taking a word from minus one is exact. -/
theorem Word.toInt_neg_sub_one (word : Word) : (-word - 1).toInt = -word.toInt - 1 := by
  have below := Int64.toInt_lt word
  have above := Int64.le_toInt word
  rw [← Int64.not_eq_neg_add, Int64.toInt_not, Int.bmod_eq_of_le (by omega) (by omega)]

/-- A stack pointer means the cell at its address if it is negative, and no index otherwise. -/
theorem StackView.toIndex?_activeIndex (view : StackView) :
    view.activeIndex.toIndex? =
      if view.pointer < 0 then some (Memory.stackIndex view.pointer) else none := by
  have exact := Word.toInt_neg_sub_one view.pointer
  by_cases negative : view.pointer < 0
  · rw [if_pos negative, Word.toIndex?_eq_some_iff, activeIndex, exact,
      Memory.stackIndex_of_neg negative]
  · rw [if_neg negative]
    have natural : 0 ≤ view.pointer.toInt := by
      have notBelow := mt Int64.lt_iff_toInt_lt.mpr negative
      rw [Int64.toInt_zero] at notBelow
      omega
    cases index : view.activeIndex.toIndex? with
    | none => rfl
    | some found =>
      have position := Word.toIndex?_eq_some_iff.mp index
      rw [activeIndex, exact] at position
      omega

/-- The highlighted index of a program's listing is that of the instruction at the pointer. -/
theorem ProgramListing.current?_eq (program : Program) (pointer : Word) :
    match current? ⟨pointer, program.instructions.map Instruction.text⟩ with
    | some index => ∃ instruction, program.instructions[index]? = some instruction ∧
        program.instruction? pointer = some instruction
    | none => program.instruction? pointer = none := by
  unfold current? Program.instruction?
  dsimp only
  rw [Array.size_map]
  cases pointer.toIndex? with
  | none => rfl
  | some index =>
    rw [Option.filter_some, Option.bind_some]
    by_cases inside : index < program.instructions.size
    · rw [if_pos (decide_eq_true inside)]
      have here := Array.getElem?_eq_getElem inside
      exact ⟨program.instructions[index], here, here⟩
    · rw [if_neg (by simpa using inside)]
      exact Array.getElem?_eq_none (Nat.le_of_not_lt inside)

namespace Reference

section Represents

variable {program : Program} {scope : Scope} {state : State}
  (represents : Represents program scope state)

include represents

/-- What a step of a running program fetches is what stands at its pointer. -/
theorem Represents.step_eq_fetched (accepted : program.Accepted) (running : state.halted = false) :
    Engine.step scope =
      (match program.instruction? state.pointer with
        | some instruction => do
          let action ← Exec.read fun _ => Fetch.decode instruction.toValue state.pointer
          Machine.perform action
          Machine.moveOn
        | none => throw .pointerOutOfBounds : Exec Unit).outcome (Machine.prepared scope) := by
  have pointer : Scope.requireInt (Machine.prepared scope) Variable.instructionPointer =
      .ok state.pointer := by
    rw [Scope.requireInt, represents.prepared.pointer]
  have loaded := represents.prepared.fixed.loaded
  rw [represents.step_of_running accepted running, Machine.turn_eq]
  simp only [Exec.outcome_bind, Exec.outcome_read, pointer, Fetch.action_of_program loaded]
  cases program.instruction? state.pointer with
  | none => rfl
  | some instruction =>
    simp only [Exec.outcome_bind, Exec.outcome_read]

/-- The instruction at the pointer is attempted. -/
theorem Represents.attempts (accepted : program.Accepted) (running : state.halted = false)
    {instruction : Instruction} (here : program.instruction? state.pointer = some instruction) :
    Machine.Attempts scope instruction := by
  obtain ⟨op, action, named, _, found, _⟩ :=
    Instruction.exists_action (accepted instruction (Program.mem_of_instruction? here))
  refine ⟨op, action, named, found, ?_⟩
  rw [represents.step_eq_fetched accepted running, here]
  simp only [Exec.outcome_bind, Exec.outcome_read, Fetch.decode_toValue named found]

/-- Popping takes the cell at the stack pointer, or zero where no cell is. -/
theorem Represents.outcome_pop :
    (Memory.pop.outcome (Machine.prepared scope)).1 =
      if state.stackPointer < 0 then .ok (.int (state.memory state.stackPointer))
      else .error .stackUnderflow := by
  have pointer : Scope.requireInt (Machine.prepared scope) Variable.stackPointer =
      .ok state.stackPointer := by
    rw [Scope.requireInt, represents.prepared.stackPointer]
  have loaded := represents.prepared.load state.stackPointer
  unfold Memory.pop
  by_cases negative : state.stackPointer < 0
  · have notNatural : ¬ 0 ≤ state.stackPointer := Int64.not_le.mpr negative
    simp only [Exec.outcome_bind, Exec.outcome_read, pointer, notNatural, negative, ↓reduceIte,
      Exec.outcome_pure, loaded, Exec.outcome_assign]
  · have natural : 0 ≤ state.stackPointer := Int64.not_lt.mp negative
    simp only [Exec.outcome_bind, Exec.outcome_read, pointer, natural, negative, ↓reduceIte,
      Exec.outcome_throw]

end Represents

end Reference

namespace Snapshot

open Reference

section Hosts

variable {program : Program} {older : Array (String × Nat)} {state : State} {scope : Scope}
  (hosts : Hosts program older state scope)

include hosts

/-- The listing of a hosted program. -/
theorem program_extract (fits : program.instructions.size < Word.positions) :
    (extract scope).program =
      some ⟨state.pointer, program.instructions.map Instruction.text⟩ := by
  have loaded := hosts.represents.fixed.loaded
  rw [program_extract_of_list loaded hosts.represents.pointer,
    textsOf_program rfl (by decide) loaded fits]
  rfl

/-- The stack of a hosted program: the cells are the memory at negative addresses. -/
theorem stack_extract : ∃ cells : Array Value,
    (extract scope).stack = some ⟨state.stackPointer, cells.map Value.render⟩ ∧
      ∀ address, address < 0 →
        (cells[Memory.stackIndex address]?).getD (.int 0) = .int (state.memory address) := by
  obtain ⟨cells, bound, limited, contents⟩ := hosts.represents.stack
  have fits : cells.size < Word.positions := by
    unfold Memory.stackLimit at limited
    unfold Word.positions
    omega
  exact ⟨cells, stack_extract_of_list bound hosts.represents.stackPointer fits, contents⟩

/-- The rows of a hosted program's memory: the cells are the memory at natural addresses. -/
theorem cell?_extract : ∃ cells : FiniteMap Word Value,
    (∀ address, (extract scope).cell? address = (cells.get? address).map Value.render) ∧
      ∀ address, 0 ≤ address →
        (cells.get? address).getD (.int 0) = .int (state.memory address) := by
  obtain ⟨cells, bound, _, contents⟩ := hosts.represents.memory
  have memory : Engine.read scope Variable.memory = some (.map cells) := bound
  refine ⟨cells, fun address => ?_, contents⟩
  rw [cell?, cellTexts_of_memory memory]
  exact cells.lookup_map_toList Value.render address

/-- The highlighted instruction of a hosted program is the one that is attempted next. -/
theorem current_extract (accepted : program.Accepted)
    (fits : program.instructions.size < Word.positions) {listing : ProgramListing}
    (shown : (extract scope).program = some listing)
    (running : scope.get? Variable.haltFlag = some (.bool false)) :
    match listing.current? with
    | some index => ∃ instruction items, listing.instructions[index]? = some instruction.text ∧
        scope.get? Variable.program = some (.list items) ∧
        items[index]? = some instruction.toValue ∧ Machine.Attempts scope instruction
    | none => (Engine.step scope).1 = .error .pointerOutOfBounds := by
  -- older lines add labels only; the instructions are the program's own
  have behind : (program.behind older).Accepted := accepted
  obtain rfl := Option.some.inj ((program_extract hosts fits).symm.trans shown)
  have goes : state.halted = false := by
    have halted := hosts.represents.halted
    rw [running] at halted
    exact (Value.bool.inj (Option.some.inj halted)).symm
  have current := ProgramListing.current?_eq program state.pointer
  cases highlighted : ProgramListing.current?
      ⟨state.pointer, program.instructions.map Instruction.text⟩ with
  | none =>
    rw [highlighted] at current
    have outside : (program.behind older).instruction? state.pointer = none := current
    dsimp only
    rw [hosts.represents.step_eq_fetched behind goes, outside]
    rfl
  | some index =>
    rw [highlighted] at current
    obtain ⟨instruction, here, fetched⟩ := current
    have item : (program.instructions.map Instruction.toValue)[index]? =
        some instruction.toValue := by
      rw [Array.getElem?_map, here, Option.map_some]
    have text : (program.instructions.map Instruction.text)[index]? = some instruction.text := by
      rw [Array.getElem?_map, here, Option.map_some]
    exact ⟨instruction, _, text, hosts.represents.fixed.loaded, item,
      hosts.represents.attempts behind goes fetched⟩

/-- The highlighted cell of a hosted program's stack is the one that is popped next. -/
theorem top_extract {view : StackView} (shown : (extract scope).stack = some view) :
    match view.active? with
    | some index => ∃ value left, Memory.pop.outcome (Machine.prepared scope) = (.ok value, left) ∧
        view.cells[index]? = some value.render
    | none => (Memory.pop.outcome (Machine.prepared scope)).1 = .error .stackUnderflow ∨
        (Memory.pop.outcome (Machine.prepared scope)).1 = .ok (.int 0) := by
  obtain ⟨cells, extracted, contents⟩ := stack_extract hosts
  obtain rfl := Option.some.inj (extracted.symm.trans shown)
  have popped := hosts.represents.outcome_pop
  unfold StackView.active?
  rw [StackView.toIndex?_activeIndex]
  dsimp only
  by_cases negative : state.stackPointer < 0
  · have cell := contents state.stackPointer negative
    rw [if_pos negative] at popped
    rw [if_pos negative, Option.filter_some, Array.size_map]
    by_cases inside : Memory.stackIndex state.stackPointer < cells.size
    · rw [if_pos (decide_eq_true inside)]
      have here : cells[Memory.stackIndex state.stackPointer]? =
          some (.int (state.memory state.stackPointer)) := by
        rw [Array.getElem?_eq_getElem inside] at cell ⊢
        exact congrArg some cell
      refine ⟨_, _, Prod.ext popped rfl, ?_⟩
      rw [Array.getElem?_map, here, Option.map_some]
    · rw [if_neg (by simpa using inside)]
      -- the list has not grown to this cell yet, so zero is popped
      right
      rw [Array.getElem?_eq_none (Nat.le_of_not_lt inside), Option.getD_none] at cell
      rw [popped, ← cell]
  · rw [if_neg negative] at popped
    rw [if_neg negative]
    exact .inl popped

/-- A load from a hosted program's memory reads what the row of its address shows. -/
theorem load_extract {address : Word} (natural : 0 ≤ address) :
    ∃ value, Memory.load (Machine.prepared scope) address = .ok value ∧
      match (extract scope).cell? address with
      | some text => value.render = text
      | none => value = .int 0 := by
  obtain ⟨cells, rows, contents⟩ := cell?_extract hosts
  have cell := contents address natural
  refine ⟨_, hosts.represents.prepared.load address, ?_⟩
  rw [rows]
  cases written : cells.get? address with
  | none =>
    rw [written, Option.getD_none] at cell
    exact cell.symm
  | some value =>
    rw [written, Option.getD_some] at cell
    exact congrArg Value.render cell.symm

/-- The snapshot of a hosted program foretells what the machine does. -/
theorem foretells_of_hosts (accepted : program.Accepted)
    (fits : program.instructions.size < Word.positions) : (extract scope).Foretells scope where
  current _ shown running := current_extract hosts accepted fits shown running
  top _ shown := top_extract hosts shown
  memory _ _ natural := load_extract hosts natural
  idle missing := by
    rw [program_extract hosts fits] at missing
    contradiction

end Hosts

end Snapshot

end UrclDebugger
