import UrclDebugger.FiniteMap.Lemmas
import UrclDebugger.Proofs.Assembly.Acceptance
import UrclDebugger.Proofs.Assembly.Names
import UrclDebugger.Urcl

/-!
# What loading a program binds

Loading writes the machine's own variables, the registers and the label variables into one scope,
one group after another. Because the groups have different names, each variable can be looked up as
if the others had not been written, and every other variable keeps its value. The instructions that
the program variable holds are read back without loss (`Fetch.action_of_program`).
-/

namespace UrclDebugger

namespace Program

/-- The operands of all instructions in order. -/
def operands (program : Program) : List String :=
  program.instructions.toList.flatMap Instruction.operands

theorem mem_operands {program : Program} {instruction : Instruction} {operand : String}
    (member : instruction ∈ program.instructions) (listed : operand ∈ instruction.operands) :
    operand ∈ program.operands :=
  List.mem_flatMap.mpr ⟨instruction, Array.mem_toList_iff.mpr member, listed⟩

theorem mem_addNew {wanted : String → Bool} {listed : Array String} {names : List String}
    {name : String} :
    name ∈ addNew wanted listed names ↔ name ∈ listed ∨ name ∈ names ∧ wanted name = true := by
  unfold addNew
  induction names generalizing listed with
  | nil => simp
  | cons first rest ih =>
    rw [List.foldl_cons, ih]
    by_cases added : (wanted first && !listed.contains first) = true
    · have new : wanted first = true ∧ first ∉ listed := by simpa using added
      simp only [added, ↓reduceIte, Array.mem_push, List.mem_cons]
      grind
    · have old : wanted first = true → first ∈ listed := by simpa using added
      simp only [added, Bool.false_eq_true, ↓reduceIte, List.mem_cons]
      grind

/-- The registers of a program are the stack pointer and the assignable operands. -/
theorem mem_registers {program : Program} {name : String} :
    name ∈ program.registers ↔
      name = Variable.stackPointer ∨
        name ∈ program.operands ∧ Instruction.isAssignable name = true := by
  rw [registers, mem_addNew]
  simp [operands]

theorem stackPointer_mem_registers (program : Program) :
    Variable.stackPointer ∈ program.registers :=
  mem_registers.mpr (.inl rfl)

theorem isAssignable_of_mem_registers {program : Program} {name : String}
    (member : name ∈ program.registers) : Instruction.isAssignable name = true := by
  rcases mem_registers.mp member with rfl | ⟨_, assignable⟩
  · decide
  · exact assignable

theorem isRegister_of_mem_registers {program : Program} {name : String}
    (member : name ∈ program.registers) : Operand.isRegister name = true :=
  (Instruction.isAssignable_iff.mp (isAssignable_of_mem_registers member)).1

/-- A register of a program is none of the machine's own variables. -/
theorem ne_of_mem_registers {program : Program} {name other : String}
    (member : name ∈ program.registers) (own : other ∈ Variable.own) : name ≠ other :=
  Variable.ne_of_not_mem_own
    (Operand.not_mem_own_of_isRegister (isRegister_of_mem_registers member)) own

theorem labelVariable_not_mem_registers (program : Program) (label : String) :
    Operand.labelVariable label ∉ program.registers :=
  fun member =>
    Operand.labelVariable_ne_of_isRegister (isRegister_of_mem_registers member) label rfl

/-- The position that a label names: that of the last label line with the same variable. -/
def position? (program : Program) (label : String) : Option Word :=
  (program.labels.toList.reverse.find? fun line =>
    Operand.labelVariable line.1 = Operand.labelVariable label).map fun line => Int64.ofNat line.2

/-- A label has no position exactly when no label line has its variable. -/
theorem position?_eq_none_iff {program : Program} {label : String} :
    program.position? label = none ↔
      ∀ line ∈ program.labels, Operand.labelVariable line.1 ≠ Operand.labelVariable label := by
  simp [position?]

end Program

section Lookup

variable {program : Program} {scope : Scope} {name : String}

theorem Program.get?_bindRegisters :
    (program.bindRegisters scope).get? name =
      if name ∈ program.registers then some (.int 0) else scope.get? name := by
  rw [bindRegisters, ← Array.foldl_toList, FiniteMap.get?_foldl_insert (fun register => register)
    fun _ => Value.int 0]
  by_cases member : name ∈ program.registers
  · have found : (program.registers.toList.reverse.find? (· = name)).isSome = true := by
      simpa using member
    obtain ⟨register, here⟩ := Option.isSome_iff_exists.mp found
    simp [member, here]
  · have missing : program.registers.toList.reverse.find? (· = name) = none := by
      simp only [List.find?_eq_none, List.mem_reverse, Array.mem_toList_iff]
      intro register listed same
      exact member (of_decide_eq_true same ▸ listed)
    simp [member, missing]

theorem Program.get?_bindLabels_of_forall_ne
    (other : ∀ label, Operand.labelVariable label ≠ name) :
    (program.bindLabels scope).get? name = scope.get? name := by
  rw [bindLabels, ← Array.foldl_toList, FiniteMap.get?_foldl_insert
    (fun line : String × Nat => Operand.labelVariable line.1)
    fun line => Value.int (Int64.ofNat line.2)]
  have missing : (program.labels.toList.reverse.find? fun line =>
      Operand.labelVariable line.1 = name) = none := by
    simp only [List.find?_eq_none]
    exact fun line _ same => other line.1 (of_decide_eq_true same)
  rw [missing, Option.map_none, Option.none_or]

theorem Program.get?_bindLabels_labelVariable (label : String) :
    (program.bindLabels scope).get? (Operand.labelVariable label) =
      ((program.position? label).map Value.int).or (scope.get? (Operand.labelVariable label)) := by
  rw [bindLabels, ← Array.foldl_toList, FiniteMap.get?_foldl_insert
    (fun line : String × Nat => Operand.labelVariable line.1)
    fun line => Value.int (Int64.ofNat line.2)]
  rw [position?, Option.map_map]
  rfl

theorem Program.get?_bindState_of_not_mem_own (notOwn : name ∉ Variable.own) :
    (bindState scope).get? name = scope.get? name := by
  have differs {other : String} (own : other ∈ Variable.own) : name ≠ other :=
    Variable.ne_of_not_mem_own notOwn own
  rw [bindState, FiniteMap.get?_insert_of_ne _ _ (differs (by decide)),
    FiniteMap.get?_insert_of_ne _ _ (differs (by decide)),
    FiniteMap.get?_insert_of_ne _ _ (differs (by decide)),
    FiniteMap.get?_insert_of_ne _ _ (differs (by decide)),
    FiniteMap.get?_insert_of_ne _ _ (differs (by decide)),
    FiniteMap.get?_insert_of_ne _ _ (differs (by decide))]

/-- The program and the entry routine are bound last and are not written over. -/
theorem Program.get?_bind_program :
    (program.bind scope).get? Variable.program =
      some (.list (program.instructions.map Instruction.toValue)) := by
  rw [bind, FiniteMap.get?_insert_of_ne _ _ (by decide), FiniteMap.get?_insert_self]

theorem Program.get?_bind_entry :
    (program.bind scope).get? Variable.entry = some (.routine Variable.entry) := by
  rw [bind, FiniteMap.get?_insert_self]

/-- Neither registers nor labels are written over what the machine's state is kept in. -/
theorem Program.get?_bind_of_mem_own (own : name ∈ Variable.own)
    (noProgram : name ≠ Variable.program) (noEntry : name ≠ Variable.entry) :
    (program.bind scope).get? name = (bindState scope).get? name := by
  have noRegister : name ∉ program.registers := fun member => ne_of_mem_registers member own rfl
  rw [bind, FiniteMap.get?_insert_of_ne _ _ noEntry, FiniteMap.get?_insert_of_ne _ _ noProgram,
    get?_bindLabels_of_forall_ne (Operand.labelVariable_ne_of_mem_own own), get?_bindRegisters,
    if_neg noRegister]

/-- What is not one of the machine's own variables is as registers and labels leave it. -/
theorem Program.get?_bind_of_not_mem_own (notOwn : name ∉ Variable.own) :
    (program.bind scope).get? name =
      (program.bindLabels (program.bindRegisters (bindState scope))).get? name := by
  rw [bind, FiniteMap.get?_insert_of_ne _ _ (Variable.ne_of_not_mem_own notOwn (by decide)),
    FiniteMap.get?_insert_of_ne _ _ (Variable.ne_of_not_mem_own notOwn (by decide))]

theorem Program.get?_bind_of_mem_registers (member : name ∈ program.registers) :
    (program.bind scope).get? name = some (.int 0) := by
  have register := isRegister_of_mem_registers member
  rw [get?_bind_of_not_mem_own (Operand.not_mem_own_of_isRegister register),
    get?_bindLabels_of_forall_ne (Operand.labelVariable_ne_of_isRegister register),
    get?_bindRegisters, if_pos member]

/-- A register that the program can not assign keeps its value. -/
theorem Program.get?_bind_of_not_mem_registers (register : Operand.isRegister name = true)
    (noRegister : name ∉ program.registers) : (program.bind scope).get? name = scope.get? name := by
  have notOwn := Operand.not_mem_own_of_isRegister register
  rw [get?_bind_of_not_mem_own notOwn,
    get?_bindLabels_of_forall_ne (Operand.labelVariable_ne_of_isRegister register),
    get?_bindRegisters, if_neg noRegister, get?_bindState_of_not_mem_own notOwn]

/-- A label variable of the program holds the label's position, any other one keeps its value. -/
theorem Program.get?_bind_labelVariable (label : String) :
    (program.bind scope).get? (Operand.labelVariable label) =
      ((program.position? label).map Value.int).or (scope.get? (Operand.labelVariable label)) := by
  have notOwn := Operand.labelVariable_not_mem_own label
  rw [get?_bind_of_not_mem_own notOwn, get?_bindLabels_labelVariable, get?_bindRegisters,
    if_neg (program.labelVariable_not_mem_registers label), get?_bindState_of_not_mem_own notOwn]

end Lookup

end UrclDebugger
