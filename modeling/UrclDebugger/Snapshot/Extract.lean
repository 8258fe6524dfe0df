import UrclDebugger.Engine
import UrclDebugger.Snapshot.Basic

/-!
# Taking snapshots

The four parts of a snapshot are taken from a scope one by one. Program and stack are read by
expressions that are written as text, so an engine decides what a length and a text is. A part that
fails is left empty and noted in the log; it does not touch the others.
-/

namespace UrclDebugger

/-- Why a part of a snapshot can not be taken. -/
inductive ExtractionError where
  | evaluation (error : EvalError)
  /-- The length of a variable is not a size. -/
  | notLength (name : String)
  /-- The memory variable holds another kind of value than a map. -/
  | memoryKind (kind : Value.Kind)
  deriving DecidableEq

/-- The wording of an extraction error. -/
def ExtractionError.message : ExtractionError → String
  | .evaluation error => error.message
  | .notLength name => "len(" ++ name ++ ") is not a length"
  | .memoryKind kind => Variable.memory ++ " is a " ++ kind.name

namespace Snapshot

variable {σ : Type} [Engine σ]

/-- The registers among the variables, in the order of display. -/
def registersOf (scope : σ) : List Register :=
  Register.sort <| (Engine.names scope).filterMap fun name =>
    (Engine.read scope name).bind fun value =>
      if value.isRegister then some ⟨name, value⟩ else none

/-- The value of the expression that a text is. -/
def evaluated (scope : σ) (expression : String) : Except ExtractionError Value :=
  (Engine.evaluate scope expression).mapError .evaluation

/-- The expression for the length of a variable. -/
def lengthExpression (name : String) : String := "len(" ++ name ++ ")"

/-- The expression for the text of an item of a variable, or of what a suffix selects in it. -/
def itemExpression (name suffix : String) (index : Nat) : String :=
  "str(" ++ name ++ "[" ++ toString index ++ "]" ++ suffix ++ ")"

/-- The length of a variable. -/
def lengthOf (scope : σ) (name : String) : Except ExtractionError Nat := do
  let value ← evaluated scope (lengthExpression name)
  match value.int?.bind Word.toIndex? with
  | some length => return length
  | none => throw (.notLength name)

/-- The texts of as many items as a variable is long. -/
def textsOf (scope : σ) (name suffix : String) : Except ExtractionError (Array String) := do
  let length ← lengthOf scope name
  let texts ← (List.range length).mapM fun index => do
    return (← evaluated scope (itemExpression name suffix index)).render
  return texts.toArray

/-- The program listing, if a program and an instruction pointer are bound. -/
def programOf (scope : σ) : Except ExtractionError (Option ProgramListing) :=
  match Engine.read scope Variable.program,
      (Engine.read scope Variable.instructionPointer).bind Value.int? with
  | some _, some pointer =>
    (textsOf scope Variable.program ".Source").map fun texts => some ⟨pointer, texts⟩
  | _, _ => .ok none

/-- The stack, if a stack and a stack pointer are bound. -/
def stackOf (scope : σ) : Except ExtractionError (Option StackView) :=
  match Engine.read scope Variable.stack,
      (Engine.read scope Variable.stackPointer).bind Value.int? with
  | some _, some pointer =>
    (textsOf scope Variable.stack "").map fun texts => some ⟨pointer, texts⟩
  | _, _ => .ok none

/-- The memory listing. -/
def memoryOf (scope : σ) : Except ExtractionError (List MemoryRow) :=
  match Engine.read scope Variable.memory with
  | none => .error (.evaluation (.undefined Variable.memory))
  | some (.map cells) =>
    .ok (MemoryRow.layout (cells.toList.map fun (address, value) => (address, value.render)))
  | some other => .error (.memoryKind other.kind)

/-- A part, or its empty form and a note why it is missing. -/
def orEmpty {α : Type} (part : String) (empty : α) (extracted : Except ExtractionError α) :
    α × List Log.Record :=
  match extracted with
  | .ok value => (value, [])
  | .error error => (empty, [⟨.trace, part ++ " unavailable: " ++ error.message⟩])

/-- The snapshot of a scope, and notes on the parts that are missing. -/
def extractWithLog (scope : σ) : Snapshot × List Log.Record :=
  let program := orEmpty "program listing" none (programOf scope)
  let stack := orEmpty "stack" none (stackOf scope)
  let memory := orEmpty "memory" [] (memoryOf scope)
  (⟨registersOf scope, program.1, stack.1, memory.1⟩, program.2 ++ stack.2 ++ memory.2)

/-- The snapshot of a scope. -/
def extract (scope : σ) : Snapshot := (extractWithLog scope).1

end Snapshot

end UrclDebugger
