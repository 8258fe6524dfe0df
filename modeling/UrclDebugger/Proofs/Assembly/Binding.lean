import Mathlib.Data.List.Induction
import UrclDebugger.Proofs.Assembly.Composition
import UrclDebugger.Proofs.Machine.Reset
import UrclDebugger.Proofs.Script.Decimal

/-!
# A program in its scope

Loading a program binds the machine's own variables, the registers that occur in the program, the
variables of its labels and the program itself, and nothing else (`Program.Loaded`). The program is
kept as objects, and what is fetched from them is the instruction at the position, or nothing
exactly at positions outside the program. The registers are the stack pointer and behind it the
others in the order of their first use (`Program.toList_registers`).
-/

namespace UrclDebugger

/-- Names that occur among others and stand in the order in which they occur there first. -/
structure InFirstUse (names listed : List String) : Prop where
  occur : ∀ name ∈ listed, name ∈ names
  ordered : listed.Pairwise fun first second => names.idxOf first < names.idxOf second

namespace InFirstUse

variable {names listed : List String} {name : String}

/-- Names that are used later do not change the order. -/
theorem extend (inOrder : InFirstUse names listed) (name : String) :
    InFirstUse (names ++ [name]) listed where
  occur other member := List.mem_append_left _ (inOrder.occur other member)
  ordered := by
    refine inOrder.ordered.imp_of_mem fun {first second} here there less => ?_
    rw [List.idxOf_append_of_mem (inOrder.occur first here),
      List.idxOf_append_of_mem (inOrder.occur second there)]
    exact less

/-- A name that is used for the first time comes last. -/
theorem concat (inOrder : InFirstUse names listed) (new : name ∉ names) :
    InFirstUse (names ++ [name]) (listed ++ [name]) where
  occur other member := by
    rcases List.mem_append.mp member with old | same
    · exact List.mem_append_left _ (inOrder.occur other old)
    · exact List.mem_append_right _ same
  ordered := by
    refine List.pairwise_append.mpr ⟨(inOrder.extend name).ordered, List.pairwise_singleton _ _, ?_⟩
    intro first here second same
    obtain rfl := List.mem_singleton.mp same
    have before := List.idxOf_lt_length_iff.mpr (inOrder.occur first here)
    rw [List.idxOf_append_of_mem (inOrder.occur first here), List.idxOf_append_of_notMem new]
    omega

end InFirstUse

namespace Program

/-- Behind the start stand the names that are wanted, in the order of their first use. By induction
on the names from their end. -/
theorem exists_toList_addNew (wanted : String → Bool) (start : String) (names : List String) :
    ∃ others, (addNew wanted #[start] names).toList = start :: others ∧ start ∉ others ∧
      InFirstUse names others := by
  induction names using List.reverseRecOn with
  | nil => exact ⟨[], rfl, List.not_mem_nil, nofun, .nil⟩
  | append_singleton names name ih =>
    obtain ⟨others, listed, unlike, inOrder⟩ := ih
    have one : addNew wanted #[start] (names ++ [name]) =
        if wanted name && !(addNew wanted #[start] names).contains name then
          (addNew wanted #[start] names).push name
        else addNew wanted #[start] names := by
      rw [addNew, List.foldl_append]
      rfl
    rw [one]
    split
    · rename_i added
      obtain ⟨isWanted, missing⟩ : wanted name = true ∧ name ∉ addNew wanted #[start] names := by
        simpa using added
      have new : name ∉ names := fun used => missing (mem_addNew.mpr (.inr ⟨used, isWanted⟩))
      have other : start ≠ name := by
        rintro rfl
        exact missing (mem_addNew.mpr (.inl (by simp)))
      refine ⟨others ++ [name], ?_, ?_, inOrder.concat new⟩
      · rw [Array.toList_push, listed, List.cons_append]
      · simp [unlike, other]
    · exact ⟨others, listed, unlike, inOrder.extend name⟩

/-- The registers of a program, each once: the stack pointer, and behind it the other registers that
are operands and can be assigned, in the order of their first use. -/
theorem toList_registers (program : Program) :
    ∃ others, program.registers.toList = Variable.stackPointer :: others ∧
      program.registers.toList.Nodup ∧ InFirstUse program.operands others ∧
      ∀ name, name ∈ others ↔ name ∈ program.operands ∧ name ≠ Variable.stackPointer ∧
        Operand.isRegister name = true ∧ name ≠ Operand.zeroRegister := by
  obtain ⟨others, listed, unlike, inOrder⟩ :=
    exists_toList_addNew Instruction.isAssignable Variable.stackPointer program.operands
  have listed : program.registers.toList = Variable.stackPointer :: others := listed
  have distinct : others.Nodup := by
    refine inOrder.ordered.imp fun {first second} less => ?_
    rintro rfl
    exact Nat.lt_irrefl _ less
  refine ⟨others, listed, ?_, inOrder, ?_⟩
  · rw [listed]
    exact List.nodup_cons.mpr ⟨unlike, distinct⟩
  · intro name
    have known : name ∈ Variable.stackPointer :: others ↔ name = Variable.stackPointer ∨
        name ∈ program.operands ∧ Instruction.isAssignable name = true := by
      rw [← listed, Array.mem_toList_iff]
      exact mem_registers
    rw [Instruction.isAssignable_iff] at known
    constructor
    · intro member
      have different : name ≠ Variable.stackPointer := by
        rintro rfl
        exact unlike member
      have operand := (known.mp (List.mem_cons_of_mem _ member)).resolve_left different
      exact ⟨operand.1, different, operand.2⟩
    · rintro ⟨operand, different, assignable⟩
      have member := known.mpr (.inr ⟨operand, assignable⟩)
      exact (List.mem_cons.mp member).resolve_left different

/-- Of the label lines with one variable the lowest decides what the variable holds. -/
theorem exists_lowest {program : Program} {line : String × Nat} (listed : line ∈ program.labels)
    (scope : Scope) :
    ∃ above lowest below, program.labels.toList = above ++ lowest :: below ∧
      Operand.labelVariable lowest.1 = Operand.labelVariable line.1 ∧
      (∀ other ∈ below, Operand.labelVariable other.1 ≠ Operand.labelVariable line.1) ∧
      (program.bind scope).get? (Operand.labelVariable line.1) =
        some (.int (Int64.ofNat lowest.2)) := by
  have some : (program.labels.toList.reverse.find? fun other =>
      decide (Operand.labelVariable other.1 = Operand.labelVariable line.1)).isSome = true := by
    rw [List.find?_isSome]
    exact ⟨line, List.mem_reverse.mpr (Array.mem_toList_iff.mpr listed), decide_eq_true rfl⟩
  obtain ⟨lowest, found⟩ := Option.isSome_iff_exists.mp some
  obtain ⟨same, passed, others, parts, unlike⟩ := List.find?_eq_some_iff_append.mp found
  refine ⟨others.reverse, lowest, passed.reverse, ?_, of_decide_eq_true same, ?_, ?_⟩
  · rw [← List.reverse_reverse program.labels.toList, parts]
    simp
  · intro other member equal
    have differs := unlike other (List.mem_reverse.mp member)
    simp [equal] at differs
  · rw [get?_bind_labelVariable, position?, found]
    rfl

end Program

namespace Instruction

/-- The object of an instruction has the instruction's text, operation and operands as fields. -/
theorem exists_fields (held : Instruction) :
    ∃ fields : FiniteMap String Value, held.toValue = .object fields ∧
      fields.get? "Source" = some (.text held.text) ∧
      fields.get? "Operation" = some (.text held.operation) ∧
      fields.get? "Operands" = some (.list (held.operands.map Value.text).toArray) ∧
      ∀ name, name ∉ ["Source", "Operation", "Operands"] → fields.get? name = none := by
  refine ⟨_, rfl, ?_, ?_, ?_, ?_⟩
  · simp [FiniteMap.ofList, FiniteMap.get?_insert]
  · simp [FiniteMap.ofList, FiniteMap.get?_insert]
  · simp [FiniteMap.ofList]
  · intro name other
    simp only [List.mem_cons, List.not_mem_nil, or_false, not_or] at other
    simp [FiniteMap.ofList, FiniteMap.get?_insert, other]

end Instruction

namespace Fetch

variable {program : Program} {scope : Scope} {position : Word}

/-- The item at a position of a loaded program is the object of the instruction there. -/
theorem entry_of_program
    (loaded : scope.get? Variable.program =
      some (.list (program.instructions.map Instruction.toValue)))
    {held : Instruction} (here : program.instruction? position = some held) :
    entry scope position = .ok held.toValue := by
  unfold Program.instruction? at here
  obtain ⟨index, inside, found⟩ := Option.bind_eq_some_iff.mp here
  simp [entry, loaded, Value.list?, inside, found]

end Fetch

namespace Program

/-- What a scope binds once a program is loaded into it, and what it has kept. -/
structure Loaded (program : Program) (before after : Scope) : Prop where
  memory : after.get? Variable.memory = some (.map ∅)
  stack : after.get? Variable.stack = some (.list #[])
  pointer : after.get? Variable.instructionPointer = some (.int 0)
  halted : after.get? Variable.haltFlag = some (.bool false)
  paused : after.get? Variable.breakFlag = some (.bool false)
  stepping : after.get? Variable.stepFlag = some (.bool false)
  entry : after.get? Variable.entry = some (.routine Variable.entry)
  registers : ∀ name ∈ program.registers, after.get? name = some (.int 0)
  /-- A label variable holds the position of the last label line with it. -/
  labels : ∀ line ∈ program.labels, ∃ above lowest below,
    program.labels.toList = above ++ lowest :: below ∧
    Operand.labelVariable lowest.1 = Operand.labelVariable line.1 ∧
    (∀ other ∈ below, Operand.labelVariable other.1 ≠ Operand.labelVariable line.1) ∧
    after.get? (Operand.labelVariable line.1) = some (.int (Int64.ofNat lowest.2))
  /-- The program is a list of objects, one for each instruction. -/
  objects : ∃ items, after.get? Variable.program = some (.list items) ∧
    items.size = program.instructions.size ∧
    ∀ (index : Nat) (held : Instruction), program.instructions[index]? = some held →
      ∃ fields : FiniteMap String Value, items[index]? = some (.object fields) ∧
        fields.get? "Source" = some (.text held.text) ∧
        fields.get? "Operation" = some (.text held.operation) ∧
        fields.get? "Operands" = some (.list (held.operands.map Value.text).toArray) ∧
        ∀ name, name ∉ ["Source", "Operation", "Operands"] → fields.get? name = none
  /-- What is fetched at a position of the program is the operation and the operands there. -/
  fetched : ∀ (position : Word) (index : Nat) (held : Instruction), position.toInt = index →
    program.instructions[index]? = some held → ∃ item op action,
      Fetch.entry after position = .ok item ∧
      item.field? "Operation" = some (.text held.operation) ∧
      Opcode.ofMnemonic? held.operation = some op ∧
      Fetch.operands item position = .ok held.operands ∧
      Action.of? op held.operands = some action ∧
      Fetch.action after position = .ok action
  outside : ∀ position : Word,
    position.toInt < 0 ∨ (program.instructions.size : Int) ≤ position.toInt →
      Fetch.action after position = .error .pointerOutOfBounds
  others : ∀ name, ¬ program.Binds name → after.get? name = before.get? name

/-- A position outside the program has no instruction. -/
theorem instruction?_eq_none {program : Program} {position : Word}
    (outside : position.toInt < 0 ∨ (program.instructions.size : Int) ≤ position.toInt) :
    program.instruction? position = none := by
  unfold instruction?
  cases place : position.toIndex? with
  | none => rfl
  | some index =>
    have reached := Word.toIndex?_eq_some_iff.mp place
    rw [Option.bind_some, Array.getElem?_eq_none_iff]
    omega

/-- The machine's state is bound as it is bound in an empty scope. -/
theorem get?_bind_state {program : Program} {scope : Scope} {name : String} {value : Value}
    (state : name ∈ Variable.stepFlag :: Machine.stateVariables)
    (blank : (bindState ∅).get? name = some value) :
    (program.bind scope).get? name = some value := by
  have fixed : ∀ name ∈ Variable.stepFlag :: Machine.stateVariables,
      name ∈ Variable.own ∧ name ≠ Variable.program ∧ name ≠ Variable.entry := by decide
  obtain ⟨own, noProgram, noEntry⟩ := fixed name state
  rw [Reference.get?_bind_of_mutable (.inr state), get?_bind_of_mem_own own noProgram noEntry,
    blank]

/-- Loading an accepted program binds what is expected of it, and nothing else. -/
theorem loaded_bind {program : Program} (accepted : program.Accepted) (scope : Scope) :
    program.Loaded scope (program.bind scope) where
  memory := get?_bind_state (by decide) rfl
  stack := get?_bind_state (by decide) rfl
  pointer := get?_bind_state (by decide) rfl
  halted := get?_bind_state (by decide) rfl
  paused := get?_bind_state (by decide) rfl
  stepping := get?_bind_state (by decide) rfl
  entry := get?_bind_entry
  registers name member := get?_bind_of_mem_registers member
  labels line listed := exists_lowest listed scope
  objects := by
    refine ⟨_, get?_bind_program, Array.size_map, fun index held here => ?_⟩
    obtain ⟨fields, made, known⟩ := held.exists_fields
    refine ⟨fields, ?_, known⟩
    rw [Array.getElem?_map, here, ← made]
    rfl
  fetched := by
    intro position index held place here
    have found : program.instruction? position = some held := by
      rw [instruction?, Word.toIndex?_eq_some_iff.mpr place, Option.bind_some, here]
    obtain ⟨op, action, named, _, stands, _⟩ :=
      Instruction.exists_action (accepted held (mem_of_instruction? found))
    refine ⟨held.toValue, op, action, Fetch.entry_of_program get?_bind_program found,
      held.field?_toValue_operation, named, Fetch.operands_toValue held position, stands, ?_⟩
    rw [Fetch.action_of_program get?_bind_program, found]
    exact Fetch.decode_toValue named stands position
  outside := by
    intro position beyond
    rw [Fetch.action_of_program get?_bind_program, instruction?_eq_none beyond]
  others name unbound := get?_bind_of_not_binds unbound

/-- What loading an assembled program binds, in any scope. The memory and the stack are empty, the
machine stands before the first instruction with its flags cleared and the entry routine bound;
every register of the program is zero, where the registers are the stack pointer and the other
registers among the operands but the zero register, each once and in the order of their first use. A
label variable holds the position of the last label line with it, a number that a word can hold. The
program is bound to one object for each instruction, and what is fetched at a position is the
operation with the operands of the instruction there, or nothing outside the program. Every other
variable is as it was. -/
theorem bind_of_assembled {text : String} {program : Program}
    (assembled : assemble text = .ok program) (scope : Scope) :
    program.Loaded scope (program.bind scope) ∧
      (∃ others, program.registers.toList = Variable.stackPointer :: others ∧
        program.registers.toList.Nodup ∧ InFirstUse program.operands others ∧
        ∀ name, name ∈ others ↔ name ∈ program.operands ∧ name ≠ Variable.stackPointer ∧
          Operand.isRegister name = true ∧ name ≠ Operand.zeroRegister) ∧
      (text.length < Word.positions → ∀ line ∈ program.labels,
        (Int64.ofNat line.2).toInt = line.2) := by
  refine ⟨loaded_bind (accepted_of_assemble assembled) scope, toList_registers program, ?_⟩
  intro short line listed
  have inside := (labels_of_assemble assembled).2 line listed
  have size := size_instructions_le_of_assemble assembled
  exact Word.toInt_position (by omega)

/-- A program with two labels that share a variable. -/
def twice : Program where
  instructions :=
    #[⟨"ADD", ["R2", "R2", "1"]⟩, ⟨"SUB", ["R1", "R0", "SP"]⟩, ⟨"JMP", [".again"]⟩]
  labels := #[(".again", 0), ("..again", 1)]

/-- The text of the program. -/
def twiceText : String := ".again\nADD R2, R2, 1\n..again\nSUB R1, R0, SP\nJMP .again"

/-- Over the leftovers of another program the lower label decides, the other program's register and
stack are gone, and the script's variable stays. -/
theorem bind_of_assembled_twice :
    assemble twiceText = .ok twice ∧ twiceText.length < Word.positions ∧
      twice.registers = #["SP", "R2", "R1"] ∧
      (∀ line ∈ twice.labels, (Int64.ofNat line.2).toInt = line.2) ∧
      (twice.bind Reference.leftovers).get? "LABEL_again" = some (.int 1) ∧
      (twice.bind Reference.leftovers).get? "R1" = some (.int 0) ∧
      (twice.bind Reference.leftovers).get? "STACK" = some (.list #[]) ∧
      Fetch.action (twice.bind Reference.leftovers) 2 = .ok (.jump ".again") ∧
      Fetch.action (twice.bind Reference.leftovers) (-1) = .error .pointerOutOfBounds ∧
      (twice.bind Reference.leftovers).get? "NOTE" = some (.int 5) := by
  have assembled : assemble twiceText = .ok twice := rfl
  obtain ⟨loaded, _, fits⟩ := bind_of_assembled assembled Reference.leftovers
  have known : "R1" ∈ twice.registers := mem_registers.mpr (.inr ⟨by decide, by decide⟩)
  refine ⟨assembled, by decide, by decide +kernel, fits (by decide), ?_,
    loaded.registers "R1" known, loaded.stack, ?_, loaded.outside (-1) (by decide), ?_⟩
  · obtain ⟨above, lowest, below, parts, _, last, held⟩ :=
      loaded.labels (".again", 0) (by simp [twice])
    -- the upper line is not the last one with the variable
    rcases above with _ | ⟨_, _ | ⟨_, _⟩⟩
    · obtain ⟨_, rfl⟩ := List.cons.inj parts
      exact absurd (by decide) (last ("..again", 1) (by simp))
    · obtain ⟨rfl, _⟩ := List.cons.inj (List.cons.inj parts).2
      exact held
    · simp [twice] at parts
  · obtain ⟨item, op, action, _, _, named, _, stands, fetched⟩ :=
      loaded.fetched 2 2 ⟨"JMP", [".again"]⟩ (by decide) rfl
    rw [fetched]
    obtain rfl : Opcode.jmp = op := Option.some.inj (Eq.trans (by decide) named)
    exact congrArg Except.ok (Option.some.inj stands.symm)
  · exact loaded.others "NOTE" (by
      rintro (own | register | ⟨line, member, same⟩)
      · exact absurd own (by decide)
      · exact absurd (isRegister_of_mem_registers register) (by decide)
      · have lines : ∀ line ∈ twice.labels, Operand.labelVariable line.1 ≠ "NOTE" := by decide
        exact lines line member same)

end Program

end UrclDebugger
