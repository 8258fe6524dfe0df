import UrclDebugger.Machine.Fetch
import UrclDebugger.Machine.Memory
import UrclDebugger.Numeral

/-!
# Running instructions

A run clears the break flag and then takes turns until the program halts. A turn fetches the
instruction at the instruction pointer, performs it and moves the pointer on by one, so a jump
sets the pointer one short of its destination. A run ends after a turn in which the step flag is
set or the break flag has been raised.
-/

namespace UrclDebugger

namespace Operand

/-- The word that an operand stands for. -/
def value (scope : Scope) (operand : String) : Except ExecError Word :=
  if operand = zeroRegister then .ok 0
  else if isRegister operand then scope.requireInt operand
  else if isLabel operand then scope.requireInt (labelVariable operand)
  else
    match Numeral.parse? operand.toList with
    | some word => .ok word
    | none => .error (.invalidOperand operand)

end Operand

namespace Machine

/-- The word that an operand stands for. -/
def operand (text : String) : Exec Word :=
  Exec.read (Operand.value · text)

/-- Sets the instruction pointer so that moving it on reaches the destination. -/
def jump (destination : Word) : Exec Unit := do
  let short ← Exec.arithmetic (Alu.Binary.sub.apply destination 1)
  Exec.assign Variable.instructionPointer (.int short)

/-- Performs an action. -/
def perform : Action → Exec Unit
  | .idle => return
  | .halt => Exec.assign Variable.haltFlag (.bool true)
  | .pause => Exec.assign Variable.breakFlag (.bool true)
  | .ret => do
    let position ← Memory.pop
    Exec.assign Variable.instructionPointer position
  | .push value => do
    let word ← operand value
    Memory.push (.int word)
  | .pop target => do
    let value ← Memory.pop
    Exec.assign target value
  | .jump destination => do
    let position ← operand destination
    jump position
  | .call destination => do
    let position ← operand destination
    let pointer ← Exec.read (·.requireInt Variable.instructionPointer)
    Memory.push (.int pointer)
    jump position
  | .load target address => do
    let address ← operand address
    let value ← Exec.read (Memory.load · address)
    Exec.assign target value
  | .store address value => do
    let address ← operand address
    let word ← operand value
    Memory.store address (.int word)
  | .copy address source => do
    let address ← operand address
    let source ← operand source
    let value ← Exec.read (Memory.load · source)
    Memory.store address value
  | .assign target value => do
    let word ← operand value
    Exec.assign target (.int word)
  | .unary op target value => do
    let word ← operand value
    let result ← Exec.arithmetic (op.apply word)
    Exec.assign target (.int result)
  | .binary op target left right => do
    let left ← operand left
    let right ← operand right
    let result ← Exec.arithmetic (op.apply left right)
    Exec.assign target (.int result)
  | .branch test destination left right => do
    let position ← operand destination
    let left ← operand left
    let right ← operand right
    if test.holds left right then jump position

/-- One turn of a run: the instruction at the instruction pointer is performed and the pointer
moves on. -/
def turn : Exec Unit := do
  let pointer ← Exec.read (·.requireInt Variable.instructionPointer)
  let action ← Exec.read (Fetch.action · pointer)
  perform action
  let pointer ← Exec.read (·.requireInt Variable.instructionPointer)
  Exec.assign Variable.instructionPointer (.int (pointer + 1))

/-- Whether the program has halted. -/
def halted (scope : Scope) : Except ExecError Bool :=
  (scope.require Variable.haltFlag).map Value.isTruthy

/-- Whether a run ends after the turn that left this scope. -/
def pauses (scope : Scope) : Bool :=
  scope.isSet Variable.stepFlag || scope.isSet Variable.breakFlag

/-- Takes turns until the program halts or the run ends, at most the given number of them. -/
def turns : Nat → Exec Unit
  | 0 => throw .unfinished
  | limit + 1 => do
    if ← Exec.read halted then return
    turn
    if ← Exec.read (.ok <| pauses ·) then return
    turns limit

/-- The body of the entry routine: a run of at most the given number of turns. -/
def execute (limit : Nat) : Exec Unit := do
  Exec.assign Variable.breakFlag (.bool false)
  turns limit

/-- Calls the routine that a variable holds. Only the entry routine has a body. -/
def call (limit : Nat) (name : String) : Exec Unit := do
  match (← get).get? name with
  | some (.routine routine) =>
    if routine = Variable.entry then execute limit else throw (.noBody name)
  | some other => throw (.notCallable other.kind)
  | none => throw (.undefined name)

/-- One step of the debugger: the step flag is set and the entry routine is called. -/
def step (limit : Nat) : Exec Unit := do
  Exec.assign Variable.stepFlag (.bool true)
  call limit Variable.entry

end Machine

end UrclDebugger
