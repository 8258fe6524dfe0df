import UrclDebugger.Assembly.Opcode
import UrclDebugger.Assembly.Operand

/-!
# Instructions

An instruction is an operation name and its operands, all still words of text: registers and
labels are looked up when the instruction runs. An instruction is accepted when its operation
exists, has the operands it takes, and assigns only what can be assigned.
-/

namespace UrclDebugger

/-- An operation name in upper case and the operands after it. -/
structure Instruction where
  operation : String
  operands : List String
  deriving DecidableEq, Repr, Inhabited

/-- Why an instruction is not accepted. -/
inductive InstructionError where
  /-- No operation has this name. -/
  | unknownOperation (name : String)
  /-- The operation takes another number of operands. -/
  | operandCount (name : String) (expected given : Nat)
  /-- The operation assigns its first operand, and that is no register or the zero register. -/
  | notAssignable (target : String)
  deriving DecidableEq, Repr

/-- The wording of a rejection. -/
def InstructionError.message : InstructionError → String
  | .unknownOperation name => "unknown operation \"" ++ name ++ "\""
  | .operandCount name expected given =>
    "\"" ++ name ++ "\" takes " ++ toString expected ++ " operand(s), got " ++ toString given
  | .notAssignable target => "\"" ++ target ++ "\" can not be assigned"

namespace Instruction

/-- The operation and its operands, one space before each operand. -/
def text (instruction : Instruction) : String :=
  instruction.operands.foldl (fun written operand => written ++ " " ++ operand)
    instruction.operation

/-- Whether an operand can be assigned: a register other than the zero register. -/
def isAssignable (operand : String) : Bool :=
  Operand.isRegister operand && operand != Operand.zeroRegister

/-- The reason why an instruction is not accepted, if there is one. -/
def rejection? (instruction : Instruction) : Option InstructionError :=
  match Opcode.ofMnemonic? instruction.operation with
  | none => some (.unknownOperation instruction.operation)
  | some op =>
    if instruction.operands.length ≠ op.arity then
      some (.operandCount instruction.operation op.arity instruction.operands.length)
    else
      match instruction.operands with
      | target :: _ =>
        if op.assignsFirst && !isAssignable target then some (.notAssignable target) else none
      | [] => none

end Instruction

end UrclDebugger
