import UrclDebugger.Proofs.Assembly.Layout
import UrclDebugger.Proofs.Assembly.Words
import UrclDebugger.Proofs.Machine.Decoding
import UrclDebugger.Proofs.Machine.Refinement
import UrclDebugger.Proofs.Snapshot.Sequence

/-!
# A program as text

A program is written down with a line for each instruction and each label, the labels in front of
the instruction that they mark. The lines are those of the text that the program was assembled from,
without what is skipped, so assembling them gives the program again. The sources in a listing are
lines of this text: each is read as the instruction that is executed at its place
(`Program.assemble_written`).
-/

namespace UrclDebugger

namespace Program

open AssemblyLine

/-- The labels with the given position. -/
def labelLines (labels : List (String × Nat)) (position : Nat) : List AssemblyLine :=
  (labels.filter fun entry => entry.2 = position).map fun entry => .label entry.1

/-- Instructions from a position on, in front of each the labels with its position, and the labels
with the position behind the last one at the end. -/
def linesFrom (labels : List (String × Nat)) (position : Nat) :
    List Instruction → List AssemblyLine
  | [] => labelLines labels position
  | held :: rest =>
    labelLines labels position ++ .instruction held :: linesFrom labels (position + 1) rest

/-- The lines of a program. -/
def lines (program : Program) : List AssemblyLine :=
  linesFrom program.labels.toList 0 program.instructions.toList

/-- The text of a program, with a line end behind each line. -/
def written (program : Program) : String :=
  String.join (program.lines.map fun line => line.text ++ "\n")

section Lines

variable {labels : List (String × Nat)} {position : Nat}

/-- A label above does not stand between the lines below. -/
theorem labelLines_cons_of_ne {name : String} {above : Nat} (other : above ≠ position) :
    labelLines ((name, above) :: labels) position = labelLines labels position := by
  simp [labelLines, other]

theorem linesFrom_cons_of_lt {name : String} {above : Nat} (before : above < position)
    (instructions : List Instruction) :
    linesFrom ((name, above) :: labels) position instructions =
      linesFrom labels position instructions := by
  induction instructions generalizing position with
  | nil => exact labelLines_cons_of_ne (Nat.ne_of_lt before)
  | cons held rest ih =>
    rw [linesFrom, linesFrom, labelLines_cons_of_ne (Nat.ne_of_lt before),
      ih (Nat.lt_succ_of_lt before)]

/-- The first label with a position is the first of the lines from there on. -/
theorem linesFrom_cons_self (name : String) (instructions : List Instruction) :
    linesFrom ((name, position) :: labels) position instructions =
      .label name :: linesFrom labels position instructions := by
  have first : labelLines ((name, position) :: labels) position =
      .label name :: labelLines labels position := by simp [labelLines]
  cases instructions with
  | nil => exact first
  | cons held rest =>
    rw [linesFrom, linesFrom, first, linesFrom_cons_of_lt (Nat.lt_succ_self position)]
    rfl

theorem labelLines_eq_nil (above : ∀ entry ∈ labels, position < entry.2) :
    labelLines labels position = [] := by
  simp only [labelLines, List.map_eq_nil_iff, List.filter_eq_nil_iff]
  intro entry listed same
  exact Nat.ne_of_gt (above entry listed) (of_decide_eq_true same)

/-- The lines of a program that lines make up are these lines. -/
theorem linesFrom_labelsOf (position : Nat) (said : List AssemblyLine) :
    linesFrom (labelsOf position said) position (instructionsOf said) = said := by
  induction said generalizing position with
  | nil => rfl
  | cons line rest ih =>
    cases line with
    | label name => rw [labelsOf, instructionsOf_label, linesFrom_cons_self, ih]
    | instruction held =>
      -- the labels below the instruction have positions behind it
      have none : labelLines (labelsOf (position + 1) rest) position = [] :=
        labelLines_eq_nil fun entry listed => le_of_mem_labelsOf listed
      rw [labelsOf, instructionsOf_instruction, linesFrom, none, ih, List.nil_append]

theorem lines_extend (said : List AssemblyLine) : (extend {} said).lines = said := by
  simpa [lines, extend] using linesFrom_labelsOf 0 said

end Lines

/-- What lines say that were written for other lines are these other lines. -/
theorem contents_text {said : List AssemblyLine} (writable : ∀ line ∈ said, line.Writable) :
    contents (Text.lines (String.join (said.map fun line => line.text ++ "\n")).toList) = said := by
  induction said with
  | nil => rfl
  | cons line rest ih =>
    obtain ⟨here, later⟩ := List.forall_mem_cons.mp writable
    have cut : (String.join ((line :: rest).map fun line => line.text ++ "\n")).toList =
        line.text.toList ++ '\n' ::
          (String.join (rest.map fun line => line.text ++ "\n")).toList := by
      simp
    have feed : '\n' ∉ line.text.toList := not_mem_text here (by decide) (by decide)
    have back : '\r' ∉ line.text.toList := not_mem_text here (by decide) (by decide)
    rw [cut, Text.lines_line feed back, contents, List.filterMap_cons_some (parse?_text here)]
    exact congrArg (line :: ·) (ih later)

section Assembled

variable {text : String} {program : Program} (assembled : assemble text = .ok program)

include assembled

/-- The lines of an assembled program are those that its text says. -/
theorem lines_of_assemble : program.lines = contents (Text.lines text.toList) := by
  rw [(assemble_eq_ok_iff.mp assembled).2, lines_extend]

theorem writable_of_mem_lines : ∀ line ∈ program.lines, line.Writable := by
  obtain ⟨accepted, _⟩ := assemble_eq_ok_iff.mp assembled
  rw [lines_of_assemble assembled]
  intro line member
  obtain ⟨characters, _, read⟩ := List.mem_filterMap.mp member
  refine writable_of_parse? read ?_
  rintro held rfl
  exact accepted held (List.mem_filterMap.mpr ⟨_, member, rfl⟩)

/-- The text of an assembled program is assembled to the program. -/
theorem assemble_of_lines : assemble program.written = .ok program := by
  have same : contents (Text.lines program.written.toList) = contents (Text.lines text.toList) := by
    rw [written, contents_text (writable_of_mem_lines assembled), lines_of_assemble assembled]
  rw [assemble_eq_ok_iff, same]
  exact assemble_eq_ok_iff.mp assembled

/-- The text of an instruction is read as the instruction. -/
theorem parse?_text_of_mem {held : Instruction} (member : held ∈ program.instructions) :
    parse? held.text.toList = some (.instruction held) := by
  have listed : .instruction held ∈ program.lines := by
    have made := (assemble_eq_ok_iff.mp assembled).2
    rw [made] at member ⊢
    rw [lines_extend]
    obtain ⟨line, there, holds⟩ : ∃ line ∈ contents (Text.lines text.toList),
        line.instruction? = some held := by
      simpa [extend, instructionsOf] using member
    cases line with
    | label name => contradiction
    | instruction other =>
      obtain rfl := Option.some.inj holds
      exact there
  have read := parse?_text (writable_of_mem_lines assembled _ listed)
  exact read

/-- What is fetched at the place of an instruction is the action of its operation and operands. -/
theorem exists_fetched {scope : Scope} (loaded : scope.get? Variable.program =
      some (.list (program.instructions.map Instruction.toValue)))
    (fits : program.instructions.size < Word.positions) {index : Nat} {held : Instruction}
    (here : program.instructions[index]? = some held) :
    ∃ op action, Opcode.ofMnemonic? held.operation = some op ∧
      Action.of? op held.operands = some action ∧
      Fetch.action scope (Int64.ofNat index) = .ok action := by
  have inside : index < program.instructions.size := (Array.getElem?_eq_some_iff.mp here).1
  have position : Word.toIndex? (Int64.ofNat index) = some index :=
    Word.toIndex?_eq_some_iff.mpr (Word.toInt_position (Nat.lt_trans inside fits))
  obtain ⟨op, action, named, _, found, _⟩ :=
    Instruction.exists_action (accepted_of_assemble assembled held (Array.mem_of_getElem? here))
  refine ⟨op, action, named, found, ?_⟩
  rw [Fetch.action_of_program loaded, instruction?, position, Option.bind_some, here]
  exact Fetch.decode_toValue named found _

end Assembled

/-- The listing of a program is faithful source. The text of an assembled program, each label on a
line in front of the instruction at its position, is assembled to the program again. As long as the
program that a source loaded stays in its variable, the listing shows for each instruction a text
that is read as the operation and the operands that are fetched at its place. -/
theorem assemble_written {text : String} {program : Program}
    (assembled : assemble text = .ok program) :
    assemble program.written = .ok program ∧
      ∀ source : Source, source.text = text → source.extension? = some "urcl" →
        text.length < Word.positions → ∀ scope later : Scope, ∀ pointer : Word,
        later.get? Variable.program =
          (Engine.load scope source).scope.get? Variable.program →
        later.get? Variable.instructionPointer = some (.int pointer) →
        ∃ listing, (Snapshot.extract later).program = some listing ∧
          listing.pointer = pointer ∧ listing.instructions.size = program.instructions.size ∧
          ∀ (index : Nat) (shown : String), listing.instructions[index]? = some shown →
            ∃ held op action, program.instructions[index]? = some held ∧
              parse? shown.toList = some (.instruction held) ∧
              Opcode.ofMnemonic? held.operation = some op ∧
              Action.of? op held.operands = some action ∧
              Fetch.action later (Int64.ofNat index) = .ok action := by
  refine ⟨assemble_of_lines assembled, ?_⟩
  rintro source rfl urcl short scope later pointer kept position
  have fits : program.instructions.size < Word.positions :=
    Nat.lt_of_le_of_lt (size_instructions_le_of_assemble assembled) short
  rw [Urcl.scope_load urcl assembled, get?_bind_program] at kept
  refine ⟨⟨pointer, program.instructions.map Instruction.text⟩, ?_, rfl, Array.size_map, ?_⟩
  · rw [Snapshot.program_extract_of_list kept position,
      Snapshot.textsOf_program rfl (by decide) kept fits]
    rfl
  · intro index shown listed
    obtain ⟨held, here, rfl⟩ : ∃ held, program.instructions[index]? = some held ∧
        held.text = shown := by
      simpa using listed
    obtain ⟨op, action, named, found, fetched⟩ := exists_fetched assembled kept fits here
    exact ⟨held, op, action, here, parse?_text_of_mem assembled (Array.mem_of_getElem? here),
      named, found, fetched⟩

/-- A program with two labels on one instruction and one behind the last. -/
def scattered : Program where
  instructions := #[⟨"IMM", ["R1", "5"]⟩, ⟨"JMP", [".start"]⟩]
  labels := #[(".start", 0), (".again", 0), (".end", 2)]

/-- A text of the program with a header, comments, commas and blanks. -/
def scatteredSource : Source :=
  .inline "scattered.urcl" "bits 8\n.start // here\n .again\n\n imm R1, 5\n// on\njmp\t.start\n.end"

example : scattered.written = ".start\n.again\nIMM R1 5\nJMP .start\n.end\n" := by decide

theorem assemble_written_scattered :
    assemble scatteredSource.text = .ok scattered ∧ assemble scattered.written = .ok scattered ∧
      ∃ listing,
        (Snapshot.extract (Engine.load (Engine.fresh : Scope) scatteredSource).scope).program =
          some listing ∧ listing.instructions.size = 2 := by
  have assembled : assemble scatteredSource.text = .ok scattered := rfl
  have urcl : scatteredSource.extension? = some "urcl" := by decide
  obtain ⟨again, shows⟩ := assemble_written assembled
  obtain ⟨listing, shown, _, size, _⟩ := shows scatteredSource rfl urcl (by decide) Engine.fresh
    (Engine.load Engine.fresh scatteredSource).scope 0 rfl (by
      rw [Urcl.scope_load urcl assembled, get?_bind_of_mem_own (by decide) (by decide) (by decide)]
      rfl)
  exact ⟨assembled, again, listing, shown, size⟩

end Program

end UrclDebugger
