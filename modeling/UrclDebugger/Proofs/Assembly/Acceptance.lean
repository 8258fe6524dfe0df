import UrclDebugger.Assembly.Program
import UrclDebugger.Machine.Action

/-!
# Accepted instructions

Assembling accepts an instruction when its operation exists, takes that many operands and assigns
only a register other than the zero register. Every instruction of an assembled program is accepted
(`Program.accepted_of_assemble`), and an accepted instruction stands for an action whose target, if
it has one, can be assigned (`Instruction.exists_action`).
-/

namespace UrclDebugger

namespace Action

/-- The register that an action assigns. -/
def target? : Action → Option String
  | .pop target | .load target _ | .assign target _ => some target
  | .unary _ target _ | .binary _ target _ _ => some target
  | _ => none

/-- An action that assigns nothing but an assignable register. -/
def Admissible (action : Action) : Prop :=
  ∀ target ∈ action.target?, Instruction.isAssignable target = true

/-- The target of an action is the first operand, and only of operations that assign it. -/
theorem target?_of? {op : Opcode} {operands : List String} {action : Action}
    (found : of? op operands = some action) :
    ∀ target ∈ action.target?, op.assignsFirst = true ∧ operands.head? = some target := by
  match operands with
  | [] => cases op <;> cases found <;> simp [target?]
  | [_] => cases op <;> cases found <;> simp [target?, Opcode.assignsFirst]
  | [_, _] => cases op <;> cases found <;> simp [target?, Opcode.assignsFirst]
  | [_, _, _] => cases op <;> cases found <;> simp [target?, Opcode.assignsFirst]
  | _ :: _ :: _ :: _ :: _ => simp [of?] at found

end Action

namespace Instruction

/-- What it takes to be accepted. -/
theorem rejection?_eq_none_iff {instruction : Instruction} :
    instruction.rejection? = none ↔
      ∃ op, Opcode.ofMnemonic? instruction.operation = some op ∧
        instruction.operands.length = op.arity ∧
        ∀ target ∈ instruction.operands.head?, op.assignsFirst = true →
          isAssignable target = true := by
  unfold rejection?
  cases Opcode.ofMnemonic? instruction.operation with
  | none => simp
  | some op =>
    by_cases fits : instruction.operands.length = op.arity
    · simp only [fits, ne_eq, not_true_eq_false, ↓reduceIte]
      cases instruction.operands with
      | nil => simp
      | cons target rest => simp
    · simp [fits]

/-- An accepted instruction stands for an admissible action. -/
theorem exists_action {instruction : Instruction} (accepted : instruction.rejection? = none) :
    ∃ op action, Opcode.ofMnemonic? instruction.operation = some op ∧
      instruction.operands.length = op.arity ∧
      Action.of? op instruction.operands = some action ∧ action.Admissible := by
  obtain ⟨op, named, fits, assignable⟩ := rejection?_eq_none_iff.mp accepted
  have stands := Action.isSome_of? op instruction.operands
  rw [fits, decide_eq_true rfl] at stands
  obtain ⟨action, found⟩ := Option.isSome_iff_exists.mp stands
  refine ⟨op, action, named, fits, found, fun target member => ?_⟩
  obtain ⟨assigns, first⟩ := Action.target?_of? found target member
  exact assignable target first assigns

end Instruction

namespace Program

/-- A program all of whose instructions are accepted. -/
def Accepted (program : Program) : Prop :=
  ∀ instruction ∈ program.instructions, instruction.rejection? = none

/-- A line that is added leaves an accepted program accepted. -/
theorem accepted_of_addLine {program extended : Program} {line : List Char}
    (accepted : program.Accepted) (added : program.addLine line = .ok extended) :
    extended.Accepted := by
  unfold addLine at added
  split at added
  · obtain rfl := Except.ok.inj added
    exact accepted
  · obtain rfl := Except.ok.inj added
    exact accepted
  · split at added
    · contradiction
    · rename_i instruction _ fine
      obtain rfl := Except.ok.inj added
      intro other member
      rcases Array.mem_push.mp member with old | rfl
      · exact accepted other old
      · exact fine

theorem accepted_of_addLines {lines : List (List Char)} {number : Nat} {program extended : Program}
    (accepted : program.Accepted) (added : program.addLines number lines = .ok extended) :
    extended.Accepted := by
  induction lines generalizing program number with
  | nil =>
    obtain rfl := Except.ok.inj added
    exact accepted
  | cons line rest ih =>
    rw [addLines] at added
    split at added
    · rename_i next one
      exact ih (accepted_of_addLine accepted one) added
    · contradiction

/-- Assembling accepts every instruction of the program it gives. -/
theorem accepted_of_assemble {text : String} {program : Program}
    (assembled : assemble text = .ok program) : program.Accepted :=
  accepted_of_addLines (fun _ member => absurd member (Array.not_mem_empty _)) assembled

/-- A line gives at most one instruction. -/
theorem size_instructions_of_addLines {lines : List (List Char)} {number : Nat}
    {program extended : Program} (added : program.addLines number lines = .ok extended) :
    extended.instructions.size ≤ program.instructions.size + lines.length := by
  induction lines generalizing program number with
  | nil =>
    obtain rfl := Except.ok.inj added
    exact Nat.le_refl _
  | cons line rest ih =>
    rw [addLines] at added
    split at added
    · rename_i next one
      have later := ih added
      have here : next.instructions.size ≤ program.instructions.size + 1 := by
        unfold addLine at one
        split at one
        · obtain rfl := Except.ok.inj one
          omega
        · obtain rfl := Except.ok.inj one
          exact Nat.le_succ _
        · split at one
          · contradiction
          · obtain rfl := Except.ok.inj one
            simp
      rw [List.length_cons]
      omega
    · contradiction

/-- A program has no more instructions than its text has characters. -/
theorem size_instructions_le_of_assemble {text : String} {program : Program}
    (assembled : assemble text = .ok program) : program.instructions.size ≤ text.length := by
  have counted := size_instructions_of_addLines assembled
  have lines := Text.length_lines_le text.toList
  have none : ({} : Program).instructions.size = 0 := rfl
  rw [none, Nat.zero_add] at counted
  rw [← String.length_toList]
  exact Nat.le_trans counted lines

end Program

end UrclDebugger
