import UrclDebugger.Machine.Alu
import UrclDebugger.Assembly.Instruction
import UrclDebugger.Value

/-!
# Errors of a step

The ways in which running an instruction or calling a routine can fail, and their wording.
-/

namespace UrclDebugger

/-- Why a step or a call failed. -/
inductive ExecError where
  /-- A variable that is needed is not bound. -/
  | undefined (name : String)
  /-- A variable that is read as an integer holds something else. -/
  | notInt (name : String) (kind : Value.Kind)
  | pointerOutOfBounds
  /-- The program holds something else than an instruction at this position. -/
  | notInstruction (position : Word)
  | malformedOperands (position : Word)
  /-- The instruction at hand is not accepted. -/
  | instruction (error : InstructionError)
  | invalidOperand (operand : String)
  | stackNotList
  | memoryNotMap
  /-- A store would make the stack larger than it may become. -/
  | stackAddress (address : Word)
  | stackUnderflow
  | arithmetic (error : ArithmeticError)
  | notCallable (kind : Value.Kind)
  /-- A routine other than the entry routine is called. -/
  | noBody (routine : String)
  /-- The run has not ended within the turns it was given. -/
  | unfinished
  deriving DecidableEq

/-- The wording of an execution error. -/
def ExecError.message : ExecError → String
  | .undefined name => "name '" ++ name ++ "' is not defined"
  | .notInt name kind => "'" ++ name ++ "' must be an int, not " ++ kind.name
  | .pointerOutOfBounds => "Instruction pointer is out of bounds."
  | .notInstruction position => "ROM[" ++ position.toDecimal ++ "] is not an instruction"
  | .malformedOperands position => "ROM[" ++ position.toDecimal ++ "] has malformed operands"
  | .instruction error => error.message
  | .invalidOperand operand => "invalid operand \"" ++ operand ++ "\""
  | .stackNotList => "STACK is not a list"
  | .memoryNotMap => "RAM is not a map"
  | .stackAddress address => "stack address " ++ address.toDecimal ++ " is out of range"
  | .stackUnderflow => "Stack underflow occurred."
  | .arithmetic error => error.message
  | .notCallable kind => "'" ++ kind.name ++ "' object is not callable"
  | .noBody routine => "routine '" ++ routine ++ "' has no body"
  | .unfinished => "the run did not end"

end UrclDebugger
