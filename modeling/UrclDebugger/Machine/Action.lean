import UrclDebugger.Assembly.Instruction
import UrclDebugger.Machine.Alu

/-!
# Actions

An action is an operation together with its operands by the part they play, so that what an
instruction does is a case distinction over parts and not over positions in a list. Registers that
an action assigns are named `target`, the place a jump goes to `destination`; all other operands
are read.
-/

namespace UrclDebugger

/-- What an instruction does. -/
inductive Action where
  | idle
  | halt
  | pause
  | ret
  | push (value : String)
  | pop (target : String)
  | jump (destination : String)
  | call (destination : String)
  | load (target address : String)
  | store (address value : String)
  /-- Copies one memory cell to another. -/
  | copy (address source : String)
  | assign (target value : String)
  | unary (op : Alu.Unary) (target operand : String)
  | binary (op : Alu.Binary) (target left right : String)
  | branch (test : Alu.Test) (destination left right : String)
  deriving DecidableEq, Repr

namespace Action

/-- The action of an operation without operands. -/
def ofOpcode0? : Opcode → Option Action
  | .nop => some .idle
  | .hlt => some .halt
  | .brk => some .pause
  | .ret => some .ret
  | _ => none

/-- The action of an operation with one operand. -/
def ofOpcode1? (op : Opcode) (a : String) : Option Action :=
  match op with
  | .psh => some (.push a)
  | .pop => some (.pop a)
  | .jmp => some (.jump a)
  | .cal => some (.call a)
  | _ => none

/-- The action of an operation with two operands. A branch on zero compares with the register that
is always zero. -/
def ofOpcode2? (op : Opcode) (a b : String) : Option Action :=
  match op with
  | .lod => some (.load a b)
  | .str => some (.store a b)
  | .cpy => some (.copy a b)
  | .mov | .imm => some (.assign a b)
  | .lsh => some (.unary .shiftLeft a b)
  | .rsh => some (.unary .shiftRight a b)
  | .inc => some (.unary .increment a b)
  | .dec => some (.unary .decrement a b)
  | .not => some (.unary .complement a b)
  | .brz => some (.branch .equal a b Operand.zeroRegister)
  | .bnz => some (.branch .different a b Operand.zeroRegister)
  | _ => none

/-- The action of an operation with three operands. -/
def ofOpcode3? (op : Opcode) (a b c : String) : Option Action :=
  match op with
  | .add => some (.binary .add a b c)
  | .sub => some (.binary .sub a b c)
  | .mlt => some (.binary .mul a b c)
  | .div => some (.binary .div a b c)
  | .mod => some (.binary .mod a b c)
  | .and => some (.binary .and a b c)
  | .or => some (.binary .or a b c)
  | .xor => some (.binary .xor a b c)
  | .bsl => some (.binary .shiftLeft a b c)
  | .bsr => some (.binary .shiftRight a b c)
  | .bre => some (.branch .equal a b c)
  | .bne => some (.branch .different a b c)
  | .brl => some (.branch .less a b c)
  | .brg => some (.branch .greater a b c)
  | .ble => some (.branch .lessOrEqual a b c)
  | .bge => some (.branch .greaterOrEqual a b c)
  | _ => none

/-- The action of an operation with the given operands, if it takes that many. -/
def of? (op : Opcode) : List String → Option Action
  | [] => ofOpcode0? op
  | [a] => ofOpcode1? op a
  | [a, b] => ofOpcode2? op a b
  | [a, b, c] => ofOpcode3? op a b c
  | _ => none

/-- An operation has an action exactly with as many operands as it takes. -/
theorem isSome_of? (op : Opcode) (operands : List String) :
    (of? op operands).isSome = decide (operands.length = op.arity) := by
  match operands with
  | [] => cases op <;> rfl
  | [_] => cases op <;> rfl
  | [_, _] => cases op <;> rfl
  | [_, _, _] => cases op <;> rfl
  | _ :: _ :: _ :: _ :: rest => cases op <;> simp [of?, Opcode.arity]

end Action

end UrclDebugger
