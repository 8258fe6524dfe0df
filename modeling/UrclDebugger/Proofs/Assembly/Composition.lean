import UrclDebugger.Proofs.Assembly.Layout
import UrclDebugger.Proofs.Assembly.Names
import UrclDebugger.Proofs.Assembly.Words
import UrclDebugger.Proofs.Text.Lines

/-!
# Programs in parts

Assembling runs through the lines of a text with two counts, the number of the line and the number
of instructions above it. A text that is cut behind the end of a line is assembled part by part: the
second part as if it stood alone, with both counts moved on to where the first part has left them,
and not at all if the first part fails (`Program.assemble_append`). What assembling reports is the
first line whose instruction is not accepted (`Program.assemble_eq_error_iff`), and what it gives
holds only instructions that can be executed and labels in the order of their positions.
-/

namespace UrclDebugger

/-- The error with its line counted from further up. -/
def AssemblyError.below (error : AssemblyError) (count : Nat) : AssemblyError :=
  { error with line := error.line + count }

namespace AssemblyLine

/-- The line holds an instruction that is not accepted. -/
def Rejects (line : List Char) (cause : InstructionError) : Prop :=
  ∃ held, parse? line = some (.instruction held) ∧ held.rejection? = some cause

/-- The line of the given number, counted from one, is the first that holds an instruction that is
not accepted. -/
def FirstRejected (lines : List (List Char)) (number : Nat) (cause : InstructionError) : Prop :=
  ∃ above line below, lines = above ++ line :: below ∧ number = above.length + 1 ∧
    Rejects line cause ∧ ∀ other ∈ above, ∀ reason, ¬ Rejects other reason

/-- A line above that is not rejected moves the first rejected one on. -/
theorem FirstRejected.cons {line : List Char} {lines : List (List Char)} {number : Nat}
    {cause : InstructionError} (rejected : FirstRejected lines number cause)
    (passes : ∀ reason, ¬ Rejects line reason) :
    FirstRejected (line :: lines) (number + 1) cause := by
  obtain ⟨above, bad, below, rfl, rfl, rejects, fine⟩ := rejected
  exact ⟨line :: above, bad, below, rfl, rfl, rejects, List.forall_mem_cons.mpr ⟨passes, fine⟩⟩

/-- Labels further down have greater positions, or the same. -/
theorem pairwise_labelsOf (above : Nat) (lines : List AssemblyLine) :
    (labelsOf above lines).Pairwise fun upper lower => upper.2 ≤ lower.2 := by
  induction lines generalizing above with
  | nil => exact .nil
  | cons line rest ih =>
    cases line with
    | label name => exact .cons (fun entry listed => le_of_mem_labelsOf listed) (ih above)
    | instruction held => exact ih (above + 1)

/-- A label has no more instructions above it than there are. -/
theorem le_add_of_mem_labelsOf {above : Nat} {lines : List AssemblyLine} {entry : String × Nat}
    (listed : entry ∈ labelsOf above lines) : entry.2 ≤ above + (instructionsOf lines).length := by
  induction lines generalizing above with
  | nil => contradiction
  | cons line rest ih =>
    cases line with
    | label name =>
      rcases List.mem_cons.mp listed with rfl | later
      · exact Nat.le_add_right _ _
      · exact ih later
    | instruction held =>
      have inside := ih listed
      rw [instructionsOf_instruction, List.length_cons]
      omega

end AssemblyLine

/-- An instruction that the operation can be executed with: the operands are as many as it takes,
each of them a word, and what it assigns is a register other than the zero register. -/
structure Instruction.WellFormed (held : Instruction) (op : Opcode) : Prop where
  named : Opcode.ofMnemonic? held.operation = some op
  counted : held.operands.length = op.arity
  nonempty : ∀ operand ∈ held.operands, operand ≠ ""
  unseparated : ∀ operand ∈ held.operands, ∀ c ∈ operand.toList, Text.isBlank c = false ∧ c ≠ ','
  assigned : op.assignsFirst = true → ∃ target others, held.operands = target :: others ∧
    Operand.isRegister target = true ∧ target ≠ Operand.zeroRegister

namespace Program

open AssemblyLine

/-- The program with another one below it, whose labels have these instructions above them too. -/
def followedBy (front back : Program) : Program where
  instructions := front.instructions ++ back.instructions
  labels := front.labels ++
    back.labels.map fun label => (label.1, front.instructions.size + label.2)

theorem followedBy_empty (program : Program) : program.followedBy {} = program := by
  simp [followedBy]

/-- A line is added to the lower program as if nothing stood above it. -/
theorem addLine_followedBy (front back : Program) (line : List Char) :
    (front.followedBy back).addLine line = (back.addLine line).map front.followedBy := by
  unfold addLine
  cases parse? line with
  | none => rfl
  | some said =>
    cases said with
    | label name => simp [followedBy, Except.map]
    | instruction held =>
      dsimp only
      cases held.rejection? with
      | none => simp [followedBy, Except.map]
      | some cause => rfl

/-- Lines are added to the lower program as if nothing stood above it, and their numbers are
counted on. By induction on the lines. -/
theorem addLines_followedBy (front back : Program) (number count : Nat)
    (lines : List (List Char)) :
    (front.followedBy back).addLines (number + count) lines =
      ((back.addLines number lines).map front.followedBy).mapError (·.below count) := by
  induction lines generalizing back number with
  | nil => rfl
  | cons line rest ih =>
    rw [addLines, addLines, addLine_followedBy]
    cases back.addLine line with
    | error cause => rfl
    | ok extended =>
      have onward : number + count + 1 = number + 1 + count := by omega
      show (front.followedBy extended).addLines (number + count + 1) rest = _
      rw [onward, ih extended (number + 1)]

/-- Lines are added one part after the other. -/
theorem addLines_append (program : Program) (number : Nat) (front back : List (List Char)) :
    program.addLines number (front ++ back) =
      (program.addLines number front).bind fun extended =>
        extended.addLines (number + front.length) back := by
  induction front generalizing program number with
  | nil => rfl
  | cons line rest ih =>
    rw [List.cons_append, addLines, addLines]
    cases program.addLine line with
    | error cause => rfl
    | ok extended =>
      have onward : number + 1 + rest.length = number + (line :: rest).length := by
        rw [List.length_cons]
        omega
      show extended.addLines (number + 1) (rest ++ back) = _
      rw [ih extended (number + 1), onward]

/-- A text is assembled in two parts, if the first one ends with a line. -/
theorem assemble_append {front : String} (ends : Text.EndsLine front.toList) (back : String) :
    assemble (front ++ back) = (assemble front).bind fun program =>
      ((assemble back).map program.followedBy).mapError
        (·.below (Text.lines front.toList).length) := by
  have cut : Text.lines (front ++ back).toList =
      Text.lines front.toList ++ Text.lines back.toList := by
    rw [String.toList_append, Text.lines_append ends]
  rw [assemble, cut, addLines_append, ← assemble]
  congr 1
  funext program
  have counted := addLines_followedBy program {} 1 (Text.lines front.toList).length
    (Text.lines back.toList)
  rw [followedBy_empty] at counted
  exact counted

section Rejection

variable {program : Program} {line : List Char} {lines : List (List Char)} {number : Nat}
  {cause : InstructionError}

/-- Adding a line fails exactly on an instruction that is not accepted. -/
theorem addLine_eq_error_iff : program.addLine line = .error cause ↔ Rejects line cause := by
  unfold addLine Rejects
  cases parse? line with
  | none => simp
  | some said =>
    cases said with
    | label name => simp
    | instruction held => cases rejected : held.rejection? <;> simp [rejected]

/-- Where no instruction is rejected, all lines are added. -/
theorem exists_addLines_eq_ok (fine : ∀ line ∈ lines, ∀ reason, ¬ Rejects line reason) :
    ∃ extended, program.addLines number lines = .ok extended := by
  induction lines generalizing program number with
  | nil => exact ⟨program, rfl⟩
  | cons line rest ih =>
    obtain ⟨here, later⟩ := List.forall_mem_cons.mp fine
    rw [addLines]
    cases added : program.addLine line with
    | error reason => exact absurd (addLine_eq_error_iff.mp added) (here reason)
    | ok extended => exact ih later

/-- Adding lines fails at the first one that is rejected. -/
theorem addLines_of_firstRejected (rejected : FirstRejected lines number cause) (count : Nat) :
    program.addLines (count + 1) lines = .error ⟨count + number, cause⟩ := by
  obtain ⟨above, line, below, rfl, rfl, rejects, fine⟩ := rejected
  obtain ⟨extended, added⟩ : ∃ extended, program.addLines (count + 1) above = .ok extended :=
    exists_addLines_eq_ok fine
  have place : count + 1 + above.length = count + (above.length + 1) := by omega
  rw [addLines_append, added]
  show extended.addLines (count + 1 + above.length) (line :: below) = _
  rw [addLines, addLine_eq_error_iff.mpr rejects, place]

/-- Where adding lines fails, the first rejected line is. -/
theorem firstRejected_of_addLines {count place : Nat}
    (failed : program.addLines (count + 1) lines = .error ⟨place, cause⟩) :
    ∃ number, place = count + number ∧ FirstRejected lines number cause := by
  induction lines generalizing program count with
  | nil => contradiction
  | cons line rest ih =>
    rw [addLines] at failed
    cases added : program.addLine line with
    | error reason =>
      rw [added] at failed
      have same : count + 1 = place ∧ reason = cause := by simpa using failed
      obtain ⟨rfl, rfl⟩ := same
      exact ⟨1, rfl, [], line, rest, rfl, rfl, addLine_eq_error_iff.mp added,
        List.forall_mem_nil _⟩
    | ok extended =>
      rw [added] at failed
      obtain ⟨number, rfl, rejected⟩ := ih failed
      have passes : ∀ reason, ¬ Rejects line reason := by
        intro reason rejects
        rw [addLine_eq_error_iff.mpr rejects] at added
        contradiction
      exact ⟨number + 1, by omega, rejected.cons passes⟩

/-- Assembling reports the first line that is rejected. -/
theorem assemble_eq_error_iff {text : String} :
    assemble text = .error ⟨number, cause⟩ ↔
      FirstRejected (Text.lines text.toList) number cause := by
  constructor
  · intro failed
    have counted : addLines {} (0 + 1) (Text.lines text.toList) = .error ⟨number, cause⟩ := failed
    obtain ⟨place, same, rejected⟩ := firstRejected_of_addLines counted
    have here : number = place := by omega
    exact here ▸ rejected
  · intro rejected
    have failed : addLines {} (0 + 1) (Text.lines text.toList) = .error ⟨0 + number, cause⟩ :=
      addLines_of_firstRejected rejected 0
    rw [Nat.zero_add number] at failed
    exact failed

end Rejection

section Assembled

variable {text : String} {program : Program} (assembled : assemble text = .ok program)

include assembled

/-- Every instruction of an assembled program is read from a line of its text. -/
theorem exists_line_of_mem {held : Instruction} (member : held ∈ program.instructions) :
    ∃ line, parse? line = some (.instruction held) := by
  have listed : held ∈ instructionsOf (contents (Text.lines text.toList)) := by
    have made := (assemble_eq_ok_iff.mp assembled).2
    rw [made] at member
    simpa [extend] using member
  obtain ⟨said, there, holds⟩ := List.mem_filterMap.mp listed
  obtain ⟨line, _, read⟩ := List.mem_filterMap.mp there
  cases said with
  | label name => contradiction
  | instruction other =>
    obtain rfl := Option.some.inj holds
    exact ⟨line, read⟩

/-- Every instruction of an assembled program can be executed with its operation. -/
theorem exists_wellFormed {held : Instruction} (member : held ∈ program.instructions) :
    ∃ op, held.WellFormed op := by
  have accepted := accepted_of_assemble assembled held member
  obtain ⟨op, named, counted, assignable⟩ := Instruction.rejection?_eq_none_iff.mp accepted
  obtain ⟨line, read⟩ := exists_line_of_mem assembled member
  have writable : (instruction held).Writable := by
    refine writable_of_parse? read ?_
    rintro other same
    cases same
    exact accepted
  refine ⟨op, named, counted, ?_, ?_, ?_⟩
  · rintro operand listed rfl
    exact (writable.2 _ listed).nonempty rfl
  · intro operand listed c inside
    have separates := (writable.2 operand listed).unseparated c inside
    have parts : (c == ',') = false ∧ Text.isBlank c = false := Bool.or_eq_false_iff.mp separates
    exact ⟨parts.2, beq_eq_false_iff_ne.mp parts.1⟩
  · intro assigns
    have some : held.operands ≠ [] := by
      intro none
      rw [none] at counted
      cases op <;> contradiction
    obtain ⟨target, others, parts⟩ := List.exists_cons_of_ne_nil some
    have first : target ∈ held.operands.head? := by rw [parts]; rfl
    have assignable := Instruction.isAssignable_iff.mp (assignable target first assigns)
    exact ⟨target, others, parts, assignable⟩

/-- The labels of an assembled program stand in the order of their positions, and none behind the
last instruction. -/
theorem labels_of_assemble :
    program.labels.toList.Pairwise (fun upper lower => upper.2 ≤ lower.2) ∧
      ∀ label ∈ program.labels, label.2 ≤ program.instructions.size := by
  have made := (assemble_eq_ok_iff.mp assembled).2
  have labels : program.labels.toList =
      labelsOf 0 (contents (Text.lines text.toList)) := by
    rw [made]
    simp [extend]
  have size : program.instructions.size =
      (instructionsOf (contents (Text.lines text.toList))).length := by
    rw [made]
    simp [extend]
  constructor
  · rw [labels]
    exact pairwise_labelsOf 0 _
  · intro label member
    rw [← Array.mem_toList_iff, labels] at member
    have inside := le_add_of_mem_labelsOf member
    omega

end Assembled

/-- Assembling goes part by part. If the first part of a text, which is empty or ends with a line,
is assembled, then the whole text is assembled exactly if the second part is, to the instructions
and labels of both, where the labels of the second part have the instructions of the first above
them; and an error in the second part is reported at its line, counted from the top. An error in the
first part is reported as it is. What is reported is the first line with an instruction that is not
accepted. Otherwise every instruction can be executed with its operation, and the labels stand in
the order of their positions, none behind the last instruction. -/
theorem assemble_in_parts {front : String} (ends : Text.EndsLine front.toList) (back : String) :
    (∀ program, assemble front = .ok program →
      (∀ joined, assemble (front ++ back) = .ok joined ↔
        ∃ further, assemble back = .ok further ∧ joined = program.followedBy further) ∧
      ∀ error, assemble back = .error error →
        assemble (front ++ back) = .error (error.below (Text.lines front.toList).length)) ∧
    (∀ error, assemble front = .error error → assemble (front ++ back) = .error error) ∧
    ∀ text,
      (∀ number cause, assemble text = .error ⟨number, cause⟩ ↔
        FirstRejected (Text.lines text.toList) number cause) ∧
      ∀ program, assemble text = .ok program →
        (∀ held ∈ program.instructions, ∃ op, held.WellFormed op) ∧
        program.labels.toList.Pairwise (fun upper lower => upper.2 ≤ lower.2) ∧
        ∀ label ∈ program.labels, label.2 ≤ program.instructions.size := by
  have parts := assemble_append ends back
  refine ⟨?_, ?_, ?_⟩
  · intro program first
    rw [first] at parts
    constructor
    · intro joined
      rw [parts]
      cases assemble back with
      | error error => simp [Except.bind, Except.map, Except.mapError]
      | ok further => simp [Except.bind, Except.map, Except.mapError, eq_comm]
    · intro error second
      rw [parts, second]
      rfl
  · intro error failed
    rw [parts, failed]
    rfl
  · intro text
    refine ⟨fun number cause => assemble_eq_error_iff, fun program assembled => ?_⟩
    exact ⟨fun held member => exists_wellFormed assembled member, labels_of_assemble assembled⟩

/-- A first part with a header, a label and an instruction. -/
def upperText : String := "bits 8\n.a\npsh 1 // one\n"

/-- A second part whose label has the instruction of the first part above it, and one that assigns
the zero register on its second line. -/
theorem assemble_in_parts_pushing :
    Text.EndsLine upperText.toList ∧
      assemble (upperText ++ ".b\r\nJMP .a") =
        .ok ⟨#[⟨"PSH", ["1"]⟩, ⟨"JMP", [".a"]⟩], #[(".a", 0), (".b", 1)]⟩ ∧
      assemble (upperText ++ "NOP\nIMM R0, 5") = .error ⟨5, .notAssignable "R0"⟩ := by
  have ends : Text.EndsLine upperText.toList := .inr ⟨"bits 8\n.a\npsh 1 // one".toList, rfl⟩
  have first : assemble upperText = .ok ⟨#[⟨"PSH", ["1"]⟩], #[(".a", 0)]⟩ := rfl
  have second : assemble ".b\r\nJMP .a" = .ok ⟨#[⟨"JMP", [".a"]⟩], #[(".b", 0)]⟩ := rfl
  have rejected : assemble "NOP\nIMM R0, 5" = .error ⟨2, .notAssignable "R0"⟩ := rfl
  have joined := ((assemble_in_parts ends ".b\r\nJMP .a").1 _ first).1
  have failed := ((assemble_in_parts ends "NOP\nIMM R0, 5").1 _ first).2
  exact ⟨ends, (joined _).mpr ⟨_, second, by simp [followedBy]⟩, failed _ rejected⟩

end Program

end UrclDebugger
