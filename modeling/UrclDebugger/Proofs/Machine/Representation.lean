import UrclDebugger.Proofs.Assembly.Loading
import UrclDebugger.Proofs.Machine.Address
import UrclDebugger.Proofs.Machine.Effects
import UrclDebugger.Proofs.Machine.Reference

/-!
# Scopes that represent states of the reference machine

A scope represents a state when each variable of a loaded program holds what the state says in the
form that the program's variables have: registers and pointers are integers, flags are booleans,
the memory is a map of integers at addresses from zero up, and the stack is a list of integers that
is not too long. Cells that are in neither container are zero. One lemma, `Represents.insert`, says
when this survives a new binding; the lemmas after it are its cases for each part of the state.
-/

namespace UrclDebugger.Reference

/-- What is bound is a memory map for the words at addresses from zero up. -/
def IsMemory (bound : Option Value) (memory : Word → Word) : Prop :=
  ∃ cells : FiniteMap Word Value, bound = some (.map cells) ∧
    (∀ address value, cells.get? address = some value → 0 ≤ address) ∧
    ∀ address, 0 ≤ address → (cells.get? address).getD (.int 0) = .int (memory address)

/-- What is bound is a stack list for the words at negative addresses. -/
def IsStack (bound : Option Value) (memory : Word → Word) : Prop :=
  ∃ cells : Array Value, bound = some (.list cells) ∧ cells.size ≤ Memory.stackLimit ∧
    ∀ address, address < 0 →
      (cells[Memory.stackIndex address]?).getD (.int 0) = .int (memory address)

/-- What is bound to a variable is what the state says of it. The reference machine has no step
flag, so any flag is right. -/
def Shows (state : State) (name : String) (bound : Option Value) : Prop :=
  if name = Variable.memory then IsMemory bound state.memory
  else if name = Variable.stack then IsStack bound state.memory
  else if name = Variable.instructionPointer then bound = some (.int state.pointer)
  else if name = Variable.haltFlag then bound = some (.bool state.halted)
  else if name = Variable.breakFlag then bound = some (.bool state.paused)
  else if name = Variable.stepFlag then ∃ flag, bound = some (.bool flag)
  else bound = some (.int (state.register name))

/-- The variables that steps of a program work on. -/
def Mutable (program : Program) (name : String) : Prop :=
  name ∈ program.registers ∨ name ∈ Variable.stepFlag :: Machine.stateVariables

/-- What loading a program binds for good: the program itself, the entry routine and the labels
that occur as operands. -/
structure Fixed (program : Program) (scope : Scope) : Prop where
  loaded : scope.get? Variable.program =
    some (.list (program.instructions.map Instruction.toValue))
  entry : scope.get? Variable.entry = some (.routine Variable.entry)
  labels : ∀ label ∈ program.operands, Operand.isLabel label = true →
    scope.get? (Operand.labelVariable label) = (program.position? label).map .int

/-- The scope of a loaded program represents a state of the reference machine. -/
structure Represents (program : Program) (scope : Scope) (state : State) : Prop where
  fixed : Fixed program scope
  shown : ∀ name, Mutable program name → Shows state name (scope.get? name)

variable {program : Program} {scope : Scope} {state : State}

section Names

theorem mem_own_of_mem_stateVariables {name : String}
    (state : name ∈ Variable.stepFlag :: Machine.stateVariables) : name ∈ Variable.own := by
  have known : ∀ other ∈ Variable.stepFlag :: Machine.stateVariables, other ∈ Variable.own := by
    decide
  exact known name state

/-- What is neither a register of the program nor one of the machine's own variables. -/
theorem not_mutable_of_not_mem_own {name : String} (noRegister : name ∉ program.registers)
    (notOwn : name ∉ Variable.own) : ¬ Mutable program name := by
  rintro (register | state)
  · exact noRegister register
  · exact notOwn (mem_own_of_mem_stateVariables state)

/-- Of the machine's own variables the program and the entry routine are not worked on. -/
theorem not_mutable_of_mem_own {name : String} (own : name ∈ Variable.own)
    (notState : name ∉ Variable.stepFlag :: Machine.stateVariables) : ¬ Mutable program name := by
  rintro (register | state)
  · exact Program.ne_of_mem_registers register own rfl
  · exact notState state

theorem not_mutable_program : ¬ Mutable program Variable.program :=
  not_mutable_of_mem_own (by decide) (by decide)

theorem not_mutable_entry : ¬ Mutable program Variable.entry :=
  not_mutable_of_mem_own (by decide) (by decide)

theorem not_mutable_label_append (rest : String) : ¬ Mutable program ("LABEL_" ++ rest) := by
  refine not_mutable_of_not_mem_own (fun member => ?_) (Operand.label_append_not_mem_own rest)
  have register := Program.isRegister_of_mem_registers member
  rw [Operand.isRegister_label_append] at register
  contradiction

theorem not_mutable_labelVariable (label : String) :
    ¬ Mutable program (Operand.labelVariable label) := not_mutable_label_append _

end Names

section Lookup

/-- A register is shown as a word. -/
theorem shows_of_mem_registers {name : String} (member : name ∈ program.registers)
    {bound : Option Value} :
    Shows state name bound ↔ bound = some (.int (state.register name)) := by
  have noMemory : name ≠ Variable.memory := Program.ne_of_mem_registers member (by decide)
  have noStack : name ≠ Variable.stack := Program.ne_of_mem_registers member (by decide)
  have noPointer : name ≠ Variable.instructionPointer :=
    Program.ne_of_mem_registers member (by decide)
  have noHalt : name ≠ Variable.haltFlag := Program.ne_of_mem_registers member (by decide)
  have noBreak : name ≠ Variable.breakFlag := Program.ne_of_mem_registers member (by decide)
  have noStep : name ≠ Variable.stepFlag := Program.ne_of_mem_registers member (by decide)
  rw [Shows, if_neg noMemory, if_neg noStack, if_neg noPointer, if_neg noHalt, if_neg noBreak,
    if_neg noStep]

variable (represents : Represents program scope state)
include represents

theorem Represents.memory : IsMemory (scope.get? Variable.memory) state.memory :=
  represents.shown Variable.memory (.inr (by decide))

theorem Represents.stack : IsStack (scope.get? Variable.stack) state.memory :=
  represents.shown Variable.stack (.inr (by decide))

theorem Represents.pointer :
    scope.get? Variable.instructionPointer = some (.int state.pointer) :=
  represents.shown Variable.instructionPointer (.inr (by decide))

theorem Represents.halted : scope.get? Variable.haltFlag = some (.bool state.halted) :=
  represents.shown Variable.haltFlag (.inr (by decide))

theorem Represents.paused : scope.get? Variable.breakFlag = some (.bool state.paused) :=
  represents.shown Variable.breakFlag (.inr (by decide))

theorem Represents.stepFlag : ∃ flag, scope.get? Variable.stepFlag = some (.bool flag) :=
  represents.shown Variable.stepFlag (.inr (by decide))

theorem Represents.register {name : String} (member : name ∈ program.registers) :
    scope.get? name = some (.int (state.register name)) :=
  (shows_of_mem_registers member).mp (represents.shown name (.inl member))

theorem Represents.stackPointer :
    scope.get? Variable.stackPointer = some (.int state.stackPointer) :=
  represents.register program.stackPointer_mem_registers

end Lookup

section Insert

/-- What is bound for good stays when a mutable variable is bound. -/
theorem Fixed.insert (fixed : Fixed program scope) {name : String} (value : Value)
    (mutable : Mutable program name) : Fixed program (scope.insert name value) := by
  have carried {other : String} (immutable : ¬ Mutable program other) :
      (FiniteMap.insert scope name value).get? other = scope.get? other :=
    FiniteMap.get?_insert_of_ne _ _ fun same => immutable (same ▸ mutable)
  constructor
  · rw [carried not_mutable_program, fixed.loaded]
  · rw [carried not_mutable_entry, fixed.entry]
  · intro label member isLabel
    rw [carried (not_mutable_labelVariable label), fixed.labels label member isLabel]

/-- A new binding shows the next state if it shows its own part of it and the other parts stay. -/
theorem Represents.insert (represents : Represents program scope state) {name : String}
    {value : Value} {next : State} (mutable : Mutable program name)
    (here : Shows next name (some value))
    (others : ∀ other bound, other ≠ name → Mutable program other → Shows state other bound →
      Shows next other bound) :
    Represents program (scope.insert name value) next where
  fixed := represents.fixed.insert value mutable
  shown := by
    intro other otherMutable
    by_cases same : other = name
    · rw [same, FiniteMap.get?_insert_self]
      exact here
    · rw [FiniteMap.get?_insert_of_ne _ _ same]
      exact others other _ same otherMutable (represents.shown other otherMutable)

variable (represents : Represents program scope state)
include represents

theorem Represents.setPointer (position : Word) :
    Represents program (scope.insert Variable.instructionPointer (.int position))
      { state with pointer := position } :=
  represents.insert (.inr (by decide)) rfl fun _ _ different _ shown => by
    simpa only [Shows, if_neg different, State.register] using shown

theorem Represents.setHalted (flag : Bool) :
    Represents program (scope.insert Variable.haltFlag (.bool flag))
      { state with halted := flag } :=
  represents.insert (.inr (by decide)) rfl fun _ _ different _ shown => by
    simpa only [Shows, if_neg different, State.register] using shown

theorem Represents.setPaused (flag : Bool) :
    Represents program (scope.insert Variable.breakFlag (.bool flag))
      { state with paused := flag } :=
  represents.insert (.inr (by decide)) rfl fun _ _ different _ shown => by
    simpa only [Shows, if_neg different, State.register] using shown

theorem Represents.setStepFlag (flag : Bool) :
    Represents program (scope.insert Variable.stepFlag (.bool flag)) state :=
  represents.insert (.inr (by decide)) ⟨flag, rfl⟩ fun _ _ _ _ shown => shown

/-- A word in a register shows in no other register and nowhere else. -/
theorem Represents.setRegister {target : String} (member : target ∈ program.registers)
    (word : Word) :
    Represents program (scope.insert target (.int word)) (state.setRegister target word) := by
  have notZero : target ≠ Operand.zeroRegister :=
    (Instruction.isAssignable_iff.mp (Program.isAssignable_of_mem_registers member)).2
  refine represents.insert (.inl member) ?_ ?_
  · exact (shows_of_mem_registers member).mpr (by rw [State.register_setRegister_self _ _ notZero])
  · intro other bound different _ shown
    simpa only [Shows, State.memory_setRegister, State.pointer_setRegister,
      State.halted_setRegister, State.paused_setRegister,
      State.register_setRegister_of_ne _ _ different] using shown

theorem Represents.setStackPointer (word : Word) :
    Represents program (scope.insert Variable.stackPointer (.int word))
      { state with stackPointer := word } :=
  represents.setRegister program.stackPointer_mem_registers word

end Insert

section Memory

/-- A write at an address from zero up. -/
theorem IsMemory.setCell {bound : Option Value} (isMemory : IsMemory bound state.memory)
    {address : Word} (natural : 0 ≤ address) (word : Word) :
    IsMemory (some (Memory.writeMemory address (.int word) bound))
      (state.setCell address word).memory := by
  obtain ⟨cells, rfl, natKeys, contents⟩ := isMemory
  refine ⟨FiniteMap.insert cells address (.int word), rfl, ?_, ?_⟩
  · intro other value found
    by_cases same : other = address
    · exact same ▸ natural
    · rw [FiniteMap.get?_insert_of_ne _ _ same] at found
      exact natKeys other value found
  · intro other otherNatural
    by_cases same : other = address
    · simp [same, State.setCell]
    · rw [FiniteMap.get?_insert_of_ne _ _ same, contents other otherNatural]
      simp [State.setCell, same]

/-- A write at a negative address that is not below the limit. Cells between the old end and the
new one are zero before and after. -/
theorem IsStack.setCell {bound : Option Value} (isStack : IsStack bound state.memory)
    {address : Word} (negative : address < 0) (fits : ¬ address.toInt < -1048576) (word : Word) :
    IsStack (some (Memory.writeStack address (.int word) bound))
      (state.setCell address word).memory := by
  obtain ⟨cells, rfl, bounded, contents⟩ := isStack
  have inside : Memory.stackIndex address < Memory.stackLimit := by
    rw [← Memory.stackLimit_le_stackIndex negative] at fits
    omega
  refine ⟨Memory.writeCell cells (Memory.stackIndex address) (.int word), rfl, ?_, ?_⟩
  · rw [Memory.size_writeCell]
    omega
  · intro other otherNegative
    by_cases same : other = address
    · simp [same, State.setCell, Memory.getElem?_writeCell]
    · have apart : Memory.stackIndex other ≠ Memory.stackIndex address := fun equal =>
        same ((Memory.stackIndex_inj negative otherNegative).mp equal)
      rw [Memory.getD_writeCell_of_ne apart, contents other otherNegative]
      simp [State.setCell, same]

/-- A write to one side of the address space leaves the other. -/
theorem IsStack.setCell_of_natural {bound : Option Value} (isStack : IsStack bound state.memory)
    {address : Word} (natural : 0 ≤ address) (word : Word) :
    IsStack bound (state.setCell address word).memory := by
  obtain ⟨cells, rfl, bounded, contents⟩ := isStack
  refine ⟨cells, rfl, bounded, fun other negative => ?_⟩
  have different : other ≠ address := by
    rintro rfl
    exact Int64.not_le.mpr negative natural
  rw [contents other negative]
  simp [State.setCell, different]

theorem IsMemory.setCell_of_negative {bound : Option Value}
    (isMemory : IsMemory bound state.memory) {address : Word} (negative : address < 0)
    (word : Word) : IsMemory bound (state.setCell address word).memory := by
  obtain ⟨cells, rfl, natKeys, contents⟩ := isMemory
  refine ⟨cells, rfl, natKeys, fun other natural => ?_⟩
  have different : other ≠ address := by
    rintro rfl
    exact Int64.not_le.mpr negative natural
  rw [contents other natural]
  simp [State.setCell, different]

variable (represents : Represents program scope state)
include represents

/-- Nothing but the limit of the stack stands against a store. -/
theorem Represents.obstacle? (address : Word) :
    Memory.obstacle? address scope =
      if address.toInt < -1048576 then some (.stackAddress address) else none := by
  obtain ⟨_, stack, _⟩ := represents.stack
  obtain ⟨_, memory, _⟩ := represents.memory
  exact Memory.obstacle?_of_containers stack memory address

theorem Represents.setCell {address : Word} (fits : ¬ address.toInt < -1048576) (word : Word) :
    Represents program (Memory.write address (.int word) scope) (state.setCell address word) := by
  unfold Memory.write
  split
  · rename_i negative
    rw [FiniteMap.alter_eq_insert]
    refine represents.insert (.inr (by decide)) (represents.stack.setCell negative fits word) ?_
    intro other bound different _ shown
    by_cases memory : other = Variable.memory
    · subst memory
      exact IsMemory.setCell_of_negative shown negative word
    · simpa only [Shows, if_neg different, if_neg memory, State.setCell, State.register] using shown
  · rename_i natural
    rw [Int64.not_lt] at natural
    rw [FiniteMap.alter_eq_insert]
    refine represents.insert (.inr (by decide)) (represents.memory.setCell natural word) ?_
    intro other bound different _ shown
    by_cases stack : other = Variable.stack
    · subst stack
      exact IsStack.setCell_of_natural shown natural word
    · simpa only [Shows, if_neg different, if_neg stack, State.setCell, State.register] using shown

/-- What is loaded is the word in the memory cell. -/
theorem Represents.load (address : Word) :
    Memory.load scope address = .ok (.int (state.memory address)) := by
  obtain ⟨stackCells, stack, _, onStack⟩ := represents.stack
  obtain ⟨cells, memory, _, inMemory⟩ := represents.memory
  unfold Memory.load
  rw [stack, memory]
  by_cases negative : address < 0
  · simp only [negative, ↓reduceIte, onStack address negative]
  · simp only [negative, ↓reduceIte, inMemory address (Int64.not_lt.mp negative)]

end Memory

section Load

theorem State.register_initial (name : String) : State.initial.register name = 0 := by
  unfold State.register
  split
  · rfl
  · split <;> rfl

/-- A program loaded into a fresh scope stands before its first instruction. -/
theorem represents_bind (program : Program) :
    Represents program (program.bind ∅) State.initial where
  fixed := by
    refine ⟨Program.get?_bind_program, Program.get?_bind_entry, fun label _ _ => ?_⟩
    rw [Program.get?_bind_labelVariable, FiniteMap.get?_empty, Option.or_none]
  shown := by
    have known : ∀ name ∈ Variable.stepFlag :: Machine.stateVariables,
        name ∈ Variable.own ∧ name ≠ Variable.program ∧ name ≠ Variable.entry := by decide
    rintro name (register | state)
    · rw [shows_of_mem_registers register, Program.get?_bind_of_mem_registers register,
        State.register_initial]
    · obtain ⟨own, noProgram, noEntry⟩ := known name state
      rw [Program.get?_bind_of_mem_own own noProgram noEntry]
      simp only [Machine.stateVariables, List.mem_cons, List.not_mem_nil, or_false] at state
      rcases state with rfl | rfl | rfl | rfl | rfl | rfl
      · exact ⟨false, rfl⟩
      · exact ⟨∅, rfl, nofun, fun _ _ => rfl⟩
      · exact ⟨#[], rfl, Nat.zero_le _, fun _ _ => rfl⟩
      · exact rfl
      · exact rfl
      · exact rfl

end Load

end UrclDebugger.Reference
