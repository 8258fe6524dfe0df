import UrclDebugger.Proofs.Machine.Decoding

/-!
# The reference machine

The machine as a manual would describe it: registers that hold words, one memory from all words to
words, a stack pointer, an instruction pointer and two flags. Nothing is looked up by variable name
and no value can have a wrong type. An instruction either has no effect defined, which the step
reports as an error, or it says for each part of the state what becomes of it; what an effect does
not mention stays. A transfer of control names the next position itself, every other instruction is
followed by the next one.
-/

namespace UrclDebugger.Reference

/-- The state of the reference machine. -/
structure State where
  /-- The general registers by name. -/
  registers : String → Word
  stackPointer : Word
  /-- One memory for all addresses; the stack is its negative part. -/
  memory : Word → Word
  /-- The position of the next instruction. -/
  pointer : Word
  halted : Bool
  paused : Bool

namespace State

/-- The state before the first instruction. -/
def initial : State := ⟨fun _ => 0, 0, fun _ => 0, 0, false, false⟩

/-- The word in a register; the zero register has no place of its own. -/
def register (state : State) (name : String) : Word :=
  if name = Operand.zeroRegister then 0
  else if name = Variable.stackPointer then state.stackPointer
  else state.registers name

/-- The state with a word in a register. -/
def setRegister (state : State) (name : String) (word : Word) : State :=
  if name = Variable.stackPointer then { state with stackPointer := word }
  else { state with registers := fun other => if other = name then word else state.registers other }

section SetRegister

variable (state : State) (target : String) (word : Word)

@[simp] theorem memory_setRegister : (state.setRegister target word).memory = state.memory := by
  unfold setRegister
  split <;> rfl

@[simp] theorem pointer_setRegister : (state.setRegister target word).pointer = state.pointer := by
  unfold setRegister
  split <;> rfl

@[simp] theorem halted_setRegister : (state.setRegister target word).halted = state.halted := by
  unfold setRegister
  split <;> rfl

@[simp] theorem paused_setRegister : (state.setRegister target word).paused = state.paused := by
  unfold setRegister
  split <;> rfl

theorem register_setRegister_self {target : String} (notZero : target ≠ Operand.zeroRegister) :
    (state.setRegister target word).register target = word := by
  rw [register, if_neg notZero, setRegister]
  split
  · rfl
  · exact if_pos rfl

theorem register_setRegister_of_ne {target other : String} (different : other ≠ target) :
    (state.setRegister target word).register other = state.register other := by
  unfold setRegister
  split
  · rename_i top
    simp [register, ← top, different]
  · simp [register, different]

end SetRegister

/-- The state with a word in a memory cell. -/
def setCell (state : State) (address word : Word) : State :=
  { state with memory := fun other => if other = address then word else state.memory other }

/-- The word that an operand of a program stands for. -/
def operand (program : Program) (state : State) (text : String) : Except ExecError Word :=
  if Operand.isRegister text then .ok (state.register text)
  else if Operand.isLabel text then
    match program.position? text with
    | some position => .ok position
    | none => .error (.undefined (Operand.labelVariable text))
  else
    match Numeral.parse? text.toList with
    | some word => .ok word
    | none => .error (.invalidOperand text)

end State

/-- A computation of the reference machine; one that fails leaves no state. -/
abbrev Run (α : Type) : Type := StateT State (Except ExecError) α

variable {α : Type}

/-- Something that the state determines. -/
def read (f : State → Except ExecError α) : Run α := fun state => (f state).map (·, state)

/-- A change of the state. -/
def change (f : State → State) : Run Unit := fun state => .ok ((), f state)

/-- The word that an operand stands for. -/
def operand (program : Program) (text : String) : Run Word := read (State.operand program · text)

/-- The result of the arithmetic unit. -/
def arithmetic (result : Except ArithmeticError Word) : Run Word :=
  read fun _ => result.mapError .arithmetic

/-- Puts a word into a register. -/
def assign (target : String) (word : Word) : Run Unit := change (State.setRegister · target word)

/-- The word in a memory cell. -/
def load (address : Word) : Run Word := read fun state => .ok (state.memory address)

/-- Puts a word into a memory cell. The stack reaches down to an address of minus two to the power
of twenty, and there is no cell below. -/
def store (address word : Word) : Run Unit := do
  if address.toInt < -1048576 then throw (.stackAddress address)
  change (State.setCell · address word)

/-- Moves the stack pointer down by one and stores a word there. -/
def push (word : Word) : Run Unit := do
  let top ← read fun state => .ok state.stackPointer
  if top = Int64.minValue then throw (.arithmetic .overflow)
  change fun state => { state with stackPointer := top - 1 }
  store (top - 1) word

/-- The word at the stack pointer, which moves up by one. -/
def pop : Run Word := do
  let top ← read fun state => .ok state.stackPointer
  if 0 ≤ top then throw .stackUnderflow
  let word ← load top
  change fun state => { state with stackPointer := top + 1 }
  return word

/-- The next instruction follows. -/
def next : Run Unit := change fun state => { state with pointer := state.pointer + 1 }

/-- The instruction at a position follows. -/
def goto (position : Word) : Run Unit := change fun state => { state with pointer := position }

/-- A transfer to a destination; the least word is none. -/
def jump (destination : Word) : Run Unit := do
  if destination = Int64.minValue then throw (.arithmetic .overflow)
  goto destination

/-- An operation on one word. -/
def unary (program : Program) (op : Word → Except ArithmeticError Word) (target value : String) :
    Run Unit := do
  let word ← operand program value
  let result ← arithmetic (op word)
  assign target result
  next

/-- An operation on two words. -/
def binary (program : Program) (op : Alu.Binary) (target left right : String) : Run Unit := do
  let left ← operand program left
  let right ← operand program right
  let result ← arithmetic (op.apply left right)
  assign target result
  next

/-- A transfer if a word passes a test. -/
def branchOne (program : Program) (test : Word → Bool) (destination value : String) :
    Run Unit := do
  let position ← operand program destination
  let word ← operand program value
  if test word then jump position else next

/-- A transfer if two words pass a test. -/
def branchTwo (program : Program) (test : Word → Word → Bool) (destination left right : String) :
    Run Unit := do
  let position ← operand program destination
  let left ← operand program left
  let right ← operand program right
  if test left right then jump position else next

/-- What each operation does, given its operands; those that it does not take are not looked at. -/
def effect (program : Program) (op : Opcode) (a b c : String) : Run Unit :=
  match op with
  | .nop => next
  | .hlt => do
    change fun state => { state with halted := true }
    next
  | .brk => do
    change fun state => { state with paused := true }
    next
  | .ret => do
    let position ← pop
    goto (position + 1)
  | .psh => do
    let word ← operand program a
    push word
    next
  | .pop => do
    let word ← pop
    assign a word
    next
  | .jmp => do
    let destination ← operand program a
    jump destination
  | .cal => do
    let destination ← operand program a
    let pointer ← read fun state => .ok state.pointer
    push pointer
    jump destination
  | .lod => do
    let address ← operand program b
    let word ← load address
    assign a word
    next
  | .str => do
    let address ← operand program a
    let word ← operand program b
    store address word
    next
  | .cpy => do
    let address ← operand program a
    let source ← operand program b
    let word ← load source
    store address word
    next
  | .mov | .imm => do
    let word ← operand program b
    assign a word
    next
  | .lsh => unary program (fun word => Alu.Binary.shiftLeft.apply word 1) a b
  | .rsh => unary program (fun word => .ok (word >>> 1)) a b
  | .inc => unary program (fun word => Alu.Binary.add.apply word 1) a b
  | .dec => unary program (fun word => Alu.Binary.sub.apply word 1) a b
  | .not => unary program (fun word => .ok (~~~word)) a b
  | .brz => branchOne program (fun word => word = 0) a b
  | .bnz => branchOne program (fun word => word ≠ 0) a b
  | .add => binary program .add a b c
  | .sub => binary program .sub a b c
  | .mlt => binary program .mul a b c
  | .div => binary program .div a b c
  | .mod => binary program .mod a b c
  | .and => binary program .and a b c
  | .or => binary program .or a b c
  | .xor => binary program .xor a b c
  | .bsl => binary program .shiftLeft a b c
  | .bsr => binary program .shiftRight a b c
  | .bre => branchTwo program (fun left right => left = right) a b c
  | .bne => branchTwo program (fun left right => left ≠ right) a b c
  | .brl => branchTwo program (fun left right => left < right) a b c
  | .brg => branchTwo program (fun left right => right < left) a b c
  | .ble => branchTwo program (fun left right => left ≤ right) a b c
  | .bge => branchTwo program (fun left right => right ≤ left) a b c

/-- Performs the instruction at the pointer. -/
def turn (program : Program) : Run Unit := do
  let pointer ← read fun state => .ok state.pointer
  match program.instruction? pointer with
  | none => throw .pointerOutOfBounds
  | some instruction =>
    match Opcode.ofMnemonic? instruction.operation with
    | none => throw (.instruction (.unknownOperation instruction.operation))
    | some op =>
      effect program op (instruction.operands.getD 0 "") (instruction.operands.getD 1 "")
        (instruction.operands.getD 2 "")

/-- One step: a pause is over, and a machine that has not halted performs an instruction. -/
def step (program : Program) (state : State) : Except ExecError State :=
  if state.halted then .ok { state with paused := false }
  else ((turn program).run { state with paused := false }).map Prod.snd

end UrclDebugger.Reference
