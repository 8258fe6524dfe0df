/-!
# Operations

The thirty-six operations of the machine, their mnemonics, the number of operands each takes and
whether the first of them is a register that the operation assigns.
-/

namespace UrclDebugger

/-- An operation of the machine. -/
inductive Opcode where
  | nop | hlt | brk | ret
  | psh | pop | jmp | cal
  | lod | str | mov | imm | lsh | rsh | inc | dec | not | brz | bnz | cpy
  | add | sub | mlt | div | mod | and | or | xor | bsl | bsr
  | bre | bne | brl | brg | ble | bge
  deriving DecidableEq, Repr

namespace Opcode

/-- The name of an operation in assembly text. -/
def mnemonic : Opcode → String
  | nop => "NOP" | hlt => "HLT" | brk => "BRK" | ret => "RET"
  | psh => "PSH" | pop => "POP" | jmp => "JMP" | cal => "CAL"
  | lod => "LOD" | str => "STR" | mov => "MOV" | imm => "IMM"
  | lsh => "LSH" | rsh => "RSH" | inc => "INC" | dec => "DEC" | not => "NOT"
  | brz => "BRZ" | bnz => "BNZ" | cpy => "CPY"
  | add => "ADD" | sub => "SUB" | mlt => "MLT" | div => "DIV" | mod => "MOD"
  | and => "AND" | or => "OR" | xor => "XOR" | bsl => "BSL" | bsr => "BSR"
  | bre => "BRE" | bne => "BNE" | brl => "BRL" | brg => "BRG" | ble => "BLE" | bge => "BGE"

/-- Every operation. -/
def all : List Opcode :=
  [nop, hlt, brk, ret, psh, pop, jmp, cal, lod, str, mov, imm, lsh, rsh, inc, dec, not, brz, bnz,
    cpy, add, sub, mlt, div, mod, and, or, xor, bsl, bsr, bre, bne, brl, brg, ble, bge]

/-- The operation with the given mnemonic, in upper case. -/
def ofMnemonic? (text : String) : Option Opcode :=
  all.find? fun op => op.mnemonic == text

/-- The number of operands. -/
def arity : Opcode → Nat
  | nop | hlt | brk | ret => 0
  | psh | pop | jmp | cal => 1
  | lod | str | mov | imm | lsh | rsh | inc | dec | not | brz | bnz | cpy => 2
  | add | sub | mlt | div | mod | and | or | xor | bsl | bsr => 3
  | bre | bne | brl | brg | ble | bge => 3

/-- Whether the first operand is a register that the operation assigns. -/
def assignsFirst : Opcode → Bool
  | pop | lod | mov | imm | lsh | rsh | inc | dec | not => true
  | add | sub | mlt | div | mod | and | or | xor | bsl | bsr => true
  | _ => false

theorem mem_all (op : Opcode) : op ∈ all := by
  cases op <;> decide

theorem ofMnemonic?_mnemonic (op : Opcode) : ofMnemonic? op.mnemonic = some op := by
  cases op <;> rfl

theorem mnemonic_of_ofMnemonic? {text : String} {op : Opcode}
    (found : ofMnemonic? text = some op) : op.mnemonic = text := by
  simpa using List.find?_some found

end Opcode

end UrclDebugger
