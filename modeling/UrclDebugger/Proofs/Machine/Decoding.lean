import UrclDebugger.Proofs.Assembly.Loading

/-!
# Decoding a loaded program

The program variable holds one object for each instruction. What the machine reads back from such
an object is the instruction's action, and what it reads at a position of the program is the
instruction there, or nothing exactly when the position lies outside the program.
-/

namespace UrclDebugger

namespace Instruction

theorem field?_toValue_operation (instruction : Instruction) :
    instruction.toValue.field? "Operation" = some (.text instruction.operation) := by
  simp [toValue, Value.field?, FiniteMap.ofList, FiniteMap.get?_insert]

theorem field?_toValue_operands (instruction : Instruction) :
    instruction.toValue.field? "Operands" =
      some (.list (instruction.operands.map Value.text).toArray) := by
  simp [toValue, Value.field?, FiniteMap.ofList]

end Instruction

namespace Program

/-- The instruction of a program at a position. -/
def instruction? (program : Program) (position : Word) : Option Instruction :=
  position.toIndex?.bind (program.instructions[·]?)

theorem mem_of_instruction? {program : Program} {position : Word} {instruction : Instruction}
    (found : program.instruction? position = some instruction) :
    instruction ∈ program.instructions := by
  obtain ⟨index, _, here⟩ := Option.bind_eq_some_iff.mp found
  exact Array.mem_of_getElem? here

end Program

namespace Fetch

theorem operands_toValue (instruction : Instruction) (position : Word) :
    operands instruction.toValue position = .ok instruction.operands := by
  have rendered : Value.render ∘ Value.text = id := funext fun _ => by simp [Value.render]
  simp only [operands, instruction.field?_toValue_operands, List.map_map, rendered, List.map_id]

/-- The object of an instruction is read back as the action of the instruction. -/
theorem decode_toValue {instruction : Instruction} {op : Opcode} {action : Action}
    (named : Opcode.ofMnemonic? instruction.operation = some op)
    (found : Action.of? op instruction.operands = some action) (position : Word) :
    decode instruction.toValue position = .ok action := by
  simp only [decode, instruction.field?_toValue_operation, named, operands_toValue, found]

/-- What is fetched is the instruction at the position, decoded. -/
theorem action_of_program {program : Program} {scope : Scope}
    (loaded : scope.get? Variable.program =
      some (.list (program.instructions.map Instruction.toValue))) (position : Word) :
    action scope position =
      match program.instruction? position with
      | some instruction => decode instruction.toValue position
      | none => .error .pointerOutOfBounds := by
  have item : (Value.list (program.instructions.map Instruction.toValue)).list?.bind
        (fun items => position.toIndex?.bind (items[·]?)) =
      (program.instruction? position).map Instruction.toValue := by
    unfold Program.instruction?
    cases position.toIndex? <;> simp [Value.list?]
  unfold action entry
  simp only [loaded, item]
  cases program.instruction? position <;> rfl

/-- From an accepted program only admissible actions are fetched. -/
theorem admissible_of_program {program : Program} (accepted : program.Accepted) {scope : Scope}
    (loaded : scope.get? Variable.program =
      some (.list (program.instructions.map Instruction.toValue)))
    (position : Word) (action : Action) (fetched : Fetch.action scope position = .ok action) :
    action.Admissible := by
  rw [action_of_program loaded] at fetched
  cases here : program.instruction? position with
  | none =>
    rw [here] at fetched
    contradiction
  | some instruction =>
    obtain ⟨op, decoded, named, _, found, admissible⟩ :=
      Instruction.exists_action (accepted instruction (Program.mem_of_instruction? here))
    rw [here] at fetched
    obtain rfl := Except.ok.inj ((decode_toValue named found position).symm.trans fetched)
    exact admissible

end Fetch

end UrclDebugger
