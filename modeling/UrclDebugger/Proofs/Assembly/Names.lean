import UrclDebugger.Assembly.Instruction
import UrclDebugger.Scope

/-!
# Names of variables

A loaded program keeps its registers, the positions of its labels and the machine's own state in
one scope. The three kinds of names are disjoint: no register and no label variable has one of the
machine's own names, and no label variable is a register. An operand can therefore never reach the
flags, the program or the entry routine.
-/

namespace UrclDebugger

/-- The machine's own variables. The stack pointer is not one of them: it is a register. -/
def Variable.own : List String :=
  [Variable.memory, Variable.stack, Variable.instructionPointer, Variable.haltFlag,
    Variable.breakFlag, Variable.stepFlag, Variable.program, Variable.entry]

theorem Variable.ne_of_not_mem_own {name other : String} (notOwn : name ∉ Variable.own)
    (own : other ∈ Variable.own) : name ≠ other := by
  rintro rfl
  exact notOwn own

namespace Operand

theorem isRegister_of_mem_own {name : String} (own : name ∈ Variable.own) :
    isRegister name = false := by
  simp only [Variable.own, List.mem_cons, List.not_mem_nil, or_false] at own
  rcases own with rfl | rfl | rfl | rfl | rfl | rfl | rfl | rfl <;> decide

theorem not_mem_own_of_isRegister {name : String} (register : isRegister name = true) :
    name ∉ Variable.own := by
  intro own
  rw [isRegister_of_mem_own own] at register
  contradiction

theorem head?_label_append (rest : String) : ("LABEL_" ++ rest).toList.head? = some 'L' := by
  simp

/-- None of the machine's own names starts as a label variable does. -/
theorem label_append_not_mem_own (rest : String) : "LABEL_" ++ rest ∉ Variable.own := by
  have others : ∀ name ∈ Variable.own, name.toList.head? ≠ some 'L' := by decide
  exact fun own => others _ own (head?_label_append rest)

/-- No register starts as a label variable does. -/
theorem isRegister_label_append (rest : String) : isRegister ("LABEL_" ++ rest) = false := by
  have differs : "LABEL_" ++ rest ≠ "SP" := by
    intro same
    have letters := head?_label_append rest
    rw [same] at letters
    exact absurd letters (by decide)
  rw [isRegister, beq_eq_false_iff_ne.mpr differs, Bool.false_or]
  simp

theorem labelVariable_not_mem_own (label : String) : labelVariable label ∉ Variable.own :=
  label_append_not_mem_own _

theorem isRegister_labelVariable (label : String) : isRegister (labelVariable label) = false :=
  isRegister_label_append _

/-- The names of registers, of label variables and of the machine's own variables are disjoint. -/
theorem labelVariable_ne_of_mem_own {name : String} (own : name ∈ Variable.own) (label : String) :
    labelVariable label ≠ name := by
  rintro rfl
  exact labelVariable_not_mem_own label own

theorem labelVariable_ne_of_isRegister {name : String} (register : isRegister name = true)
    (label : String) : labelVariable label ≠ name := by
  rintro rfl
  rw [isRegister_labelVariable] at register
  contradiction

end Operand

namespace Instruction

theorem isAssignable_iff {operand : String} :
    isAssignable operand = true ↔
      Operand.isRegister operand = true ∧ operand ≠ Operand.zeroRegister := by
  simp [isAssignable]

end Instruction

end UrclDebugger
