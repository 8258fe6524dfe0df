import UrclDebugger.Engine
import UrclDebugger.Machine.Execute

/-!
# The engine for URCL programs

Two kinds of sources are loaded. A `urcl` source is assembled and, if every line is accepted,
replaces the program and the machine's state. A `urs` source is a script that runs in the scope as
it is.
-/

namespace UrclDebugger

namespace Instruction

/-- The object that stands for an instruction in the program variable. -/
def toValue (instruction : Instruction) : Value :=
  .object (FiniteMap.ofList
    [("Source", .text instruction.text), ("Operation", .text instruction.operation),
      ("Operands", .list (instruction.operands.map Value.text).toArray)])

end Instruction

namespace Program

/-- The scope with the machine's state as it is before the first instruction. -/
def bindState (scope : Scope) : Scope :=
  scope
    |>.insert Variable.memory (.map ∅)
    |>.insert Variable.instructionPointer (.int 0)
    |>.insert Variable.haltFlag (.bool false)
    |>.insert Variable.breakFlag (.bool false)
    |>.insert Variable.stepFlag (.bool false)
    |>.insert Variable.stack (.list #[])

/-- The scope with every register set to zero. -/
def bindRegisters (program : Program) (scope : Scope) : Scope :=
  program.registers.foldl (fun scope register => scope.insert register (.int 0)) scope

/-- The scope with the position of every label; of two labels with one variable the later stays. -/
def bindLabels (program : Program) (scope : Scope) : Scope :=
  program.labels.foldl (fun scope label =>
    scope.insert (Operand.labelVariable label.1) (.int (Int64.ofNat label.2))) scope

/-- The scope with the program loaded and the machine's state reset. -/
def bind (program : Program) (scope : Scope) : Scope :=
  program.bindLabels (program.bindRegisters (bindState scope))
    |>.insert Variable.program (.list (program.instructions.map Instruction.toValue))
    |>.insert Variable.entry (.routine Variable.entry)

end Program

namespace Urcl

/-- Loads a source into a scope. -/
def load (scope : Scope) (source : Source) : Loading Scope :=
  match source.extension? with
  | some "urcl" =>
    match Program.assemble source.text with
    | .error error => ⟨scope, some (.assembly error), []⟩
    | .ok program =>
      ⟨program.bind scope, none,
        [⟨.debug, "assembled " ++ source.name ++ ": " ++ toString program.instructions.size ++
          " instructions, " ++ toString program.labels.size ++ " labels"⟩]⟩
  | some "urs" =>
    let outcome := Script.run scope source.text
    ⟨outcome.scope, outcome.failure.map .script, []⟩
  | _ => ⟨scope, some .unsupported, []⟩

/-- The most turns that one step or call takes before it is given up. -/
def turnLimit : Nat := 4611686018427387904

instance : Engine Scope where
  fresh := ∅
  load := load
  read scope name := scope.get? name
  names scope := scope.keys
  bind scope name value := scope.insert name value
  evaluate scope text := Expr.evaluateText scope text
  step scope := (Machine.step turnLimit).run.run scope

end Urcl

end UrclDebugger
