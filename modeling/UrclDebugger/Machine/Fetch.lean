import UrclDebugger.Machine.Action
import UrclDebugger.Machine.Exec

/-!
# Fetching instructions

The program is a variable like any other: a list of objects with the fields `Operation` and
`Operands`. What a position holds is checked every time it is fetched. A missing `Operands` field
stands for no operands.
-/

namespace UrclDebugger.Fetch

/-- The item of the program at a position. -/
def entry (scope : Scope) (position : Word) : Except ExecError Value :=
  match scope.get? Variable.program with
  | none => .error (.undefined Variable.program)
  | some program =>
    match (program.list?.bind fun items => position.toIndex?.bind (items[·]?)) with
    | some item => .ok item
    | none => .error .pointerOutOfBounds

/-- The operands that an instruction object lists. -/
def operands (item : Value) (position : Word) : Except ExecError (List String) :=
  match item.field? "Operands" with
  | some (.list values) => .ok (values.toList.map Value.render)
  | some _ => .error (.malformedOperands position)
  | none => .ok []

/-- The action that an instruction object stands for. -/
def decode (item : Value) (position : Word) : Except ExecError Action :=
  match item.field? "Operation" with
  | some (.text operation) =>
    match Opcode.ofMnemonic? operation with
    | none => .error (.instruction (.unknownOperation operation))
    | some op =>
      match operands item position with
      | .error error => .error error
      | .ok listed =>
        match Action.of? op listed with
        | some action => .ok action
        | none => .error (.instruction (.operandCount operation op.arity listed.length))
  | _ => .error (.notInstruction position)

/-- The action at a position of the program. -/
def action (scope : Scope) (position : Word) : Except ExecError Action :=
  match entry scope position with
  | .ok item => decode item position
  | .error error => .error error

end UrclDebugger.Fetch
