import UrclDebugger.Assembly.Line
import UrclDebugger.Text.Lines

/-!
# Programs

A program is its instructions in order and its labels with the position of the instruction that
each one marks. Assembling reads the lines of a text in order and stops at the first instruction
that is not accepted.
-/

namespace UrclDebugger

/-- Instructions in order, and labels with the number of instructions before them. -/
structure Program where
  instructions : Array Instruction := #[]
  labels : Array (String × Nat) := #[]
  deriving DecidableEq, Repr, Inhabited

/-- The first line, counted from one, that is not accepted. -/
structure AssemblyError where
  line : Nat
  cause : InstructionError
  deriving DecidableEq, Repr

/-- The wording of a failed assembly. -/
def AssemblyError.message (error : AssemblyError) : String :=
  "line " ++ toString error.line ++ ": " ++ error.cause.message

namespace Program

/-- The program with one more line, or the reason why the line is not accepted. -/
def addLine (program : Program) (line : List Char) : Except InstructionError Program :=
  match AssemblyLine.parse? line with
  | none => .ok program
  | some (.label name) =>
    .ok { program with labels := program.labels.push (name, program.instructions.size) }
  | some (.instruction instruction) =>
    match instruction.rejection? with
    | some cause => .error cause
    | none => .ok { program with instructions := program.instructions.push instruction }

/-- The program with more lines, the first of which has the given number. -/
def addLines (program : Program) (number : Nat) :
    List (List Char) → Except AssemblyError Program
  | [] => .ok program
  | line :: rest =>
    match program.addLine line with
    | .ok extended => extended.addLines (number + 1) rest
    | .error cause => .error ⟨number, cause⟩

/-- The program written by a text. -/
def assemble (text : String) : Except AssemblyError Program :=
  addLines {} 1 (Text.lines text.toList)

/-- The names not yet listed, in order of first occurrence, that pass the test. -/
def addNew (wanted : String → Bool) (listed : Array String) (names : List String) :
    Array String :=
  names.foldl (fun listed name =>
    if wanted name && !listed.contains name then listed.push name else listed) listed

/-- The assignable registers that occur as operands: the stack pointer first, whether it occurs or
not, the others in order of first occurrence. -/
def registers (program : Program) : Array String :=
  addNew Instruction.isAssignable #["SP"]
    (program.instructions.toList.flatMap Instruction.operands)

end Program

end UrclDebugger
