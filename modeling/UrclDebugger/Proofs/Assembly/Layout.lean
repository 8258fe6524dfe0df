import UrclDebugger.Proofs.Assembly.Acceptance

/-!
# How a program is laid out in its text

Assembling adds to a program line by line. What it gives is told by what the lines say: the
instructions are those on the lines in their order, and the position of a label is the number of
instructions above its line (`Program.assemble_eq_ok_iff`). Blank lines, comments and headers say
nothing and count for nothing.
-/

namespace UrclDebugger

namespace AssemblyLine

/-- The instruction that a line holds. -/
def instruction? : AssemblyLine → Option Instruction
  | .instruction held => some held
  | .label _ => none

/-- What lines of text say, one after another. -/
def contents (lines : List (List Char)) : List AssemblyLine :=
  lines.filterMap parse?

/-- The instructions on lines. -/
def instructionsOf (lines : List AssemblyLine) : List Instruction :=
  lines.filterMap instruction?

/-- The labels on lines with the number of instructions above each, of which so many stand above the
first line. -/
def labelsOf (above : Nat) : List AssemblyLine → List (String × Nat)
  | [] => []
  | .label name :: rest => (name, above) :: labelsOf above rest
  | .instruction _ :: rest => labelsOf (above + 1) rest

@[simp] theorem instructionsOf_nil : instructionsOf [] = [] := rfl

@[simp] theorem instructionsOf_label (name : String) (rest : List AssemblyLine) :
    instructionsOf (.label name :: rest) = instructionsOf rest := rfl

@[simp] theorem instructionsOf_instruction (held : Instruction) (rest : List AssemblyLine) :
    instructionsOf (.instruction held :: rest) = held :: instructionsOf rest := rfl

theorem instructionsOf_append (front back : List AssemblyLine) :
    instructionsOf (front ++ back) = instructionsOf front ++ instructionsOf back :=
  List.filterMap_append

/-- Lines below have the instructions of the lines above on top of them. -/
theorem labelsOf_append (above : Nat) (front back : List AssemblyLine) :
    labelsOf above (front ++ back) =
      labelsOf above front ++ labelsOf (above + (instructionsOf front).length) back := by
  induction front generalizing above with
  | nil => rfl
  | cons line rest ih =>
    cases line with
    | label name => simp [labelsOf, ih]
    | instruction held =>
      have further : above + 1 + (instructionsOf rest).length =
          above + ((instructionsOf rest).length + 1) := by omega
      simp [labelsOf, ih, further]

/-- Labels on lines are the labels that the lines hold. -/
theorem exists_label_of_mem_labelsOf {above : Nat} {lines : List AssemblyLine}
    {entry : String × Nat} (listed : entry ∈ labelsOf above lines) : .label entry.1 ∈ lines := by
  induction lines generalizing above with
  | nil => contradiction
  | cons line rest ih =>
    cases line with
    | label name =>
      rcases List.mem_cons.mp listed with rfl | later
      · exact List.mem_cons_self
      · exact List.mem_cons_of_mem _ (ih later)
    | instruction held => exact List.mem_cons_of_mem _ (ih listed)

/-- No label stands above the first line. -/
theorem le_of_mem_labelsOf {above : Nat} {lines : List AssemblyLine} {entry : String × Nat}
    (listed : entry ∈ labelsOf above lines) : above ≤ entry.2 := by
  induction lines generalizing above with
  | nil => contradiction
  | cons line rest ih =>
    cases line with
    | label name =>
      rcases List.mem_cons.mp listed with rfl | later
      · exact Nat.le_refl _
      · exact ih later
    | instruction held => exact Nat.le_of_succ_le (ih listed)

end AssemblyLine

namespace Program

open AssemblyLine

/-- The program with what lines say added at its end. -/
def extend (program : Program) (lines : List AssemblyLine) : Program where
  instructions := program.instructions ++ (instructionsOf lines).toArray
  labels := program.labels ++ (labelsOf program.instructions.size lines).toArray

theorem extend_nil (program : Program) : program.extend [] = program := by
  simp [extend, labelsOf]

theorem extend_label (program : Program) (name : String) (rest : List AssemblyLine) :
    program.extend (.label name :: rest) =
      extend { program with labels := program.labels.push (name, program.instructions.size) }
        rest := by
  simp [extend, labelsOf]

theorem extend_instruction (program : Program) (held : Instruction) (rest : List AssemblyLine) :
    program.extend (.instruction held :: rest) =
      extend { program with instructions := program.instructions.push held } rest := by
  simp [extend, labelsOf]

/-- Adding lines gives the program extended by what they say, if every instruction on them is
accepted, and fails otherwise. -/
theorem addLines_eq_ok_iff {program extended : Program} {number : Nat}
    {lines : List (List Char)} :
    program.addLines number lines = .ok extended ↔
      (∀ held ∈ instructionsOf (contents lines), held.rejection? = none) ∧
        extended = program.extend (contents lines) := by
  induction lines generalizing program number with
  | nil => simp [addLines, contents, extend_nil, eq_comm]
  | cons line rest ih =>
    rw [addLines, addLine]
    cases parsed : parse? line with
    | none =>
      have same : contents (line :: rest) = contents rest := List.filterMap_cons_none parsed
      rw [same]
      exact ih
    | some said =>
      have more : contents (line :: rest) = said :: contents rest :=
        List.filterMap_cons_some parsed
      rw [more]
      cases said with
      | label name =>
        rw [extend_label, instructionsOf_label]
        exact ih
      | instruction held =>
        rw [extend_instruction, instructionsOf_instruction]
        dsimp only
        cases fine : held.rejection? with
        | none =>
          rw [List.forall_mem_cons, and_iff_right fine]
          exact ih
        | some cause => simp [fine]

/-- A text is assembled to what its lines say, if every instruction on them is accepted. -/
theorem assemble_eq_ok_iff {text : String} {program : Program} :
    assemble text = .ok program ↔
      (∀ held ∈ instructionsOf (contents (Text.lines text.toList)), held.rejection? = none) ∧
        program = extend {} (contents (Text.lines text.toList)) :=
  addLines_eq_ok_iff

end Program

end UrclDebugger
