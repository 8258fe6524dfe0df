import UrclDebugger.Machine.Error
import UrclDebugger.Scope

/-!
# Computations of the machine

A computation of the machine reads and changes a scope and may fail. A failure keeps what was
changed before it: what a failed step leaves in the scope is what the user sees.
-/

namespace UrclDebugger

/-- A computation on a scope that may fail and keeps its changes when it does. -/
abbrev Exec (α : Type) : Type := ExceptT ExecError (StateM Scope) α

namespace Scope

/-- The value of a variable that has to be bound. -/
def require (scope : Scope) (name : String) : Except ExecError Value :=
  match scope.get? name with
  | some value => .ok value
  | none => .error (.undefined name)

/-- The value of a variable that has to be bound to an integer. -/
def requireInt (scope : Scope) (name : String) : Except ExecError Word :=
  match scope.get? name with
  | some (.int value) => .ok value
  | some other => .error (.notInt name other.kind)
  | none => .error (.undefined name)

/-- Whether a flag is bound and true. -/
def isSet (scope : Scope) (name : String) : Bool :=
  match scope.get? name with
  | some value => value.isTruthy
  | none => false

end Scope

namespace Exec

/-- Reads something from the scope. -/
def read {α : Type} (f : Scope → Except ExecError α) : Exec α :=
  ExceptT.mk fun scope => (f scope, scope)

/-- Changes the scope, unless something stands against it. -/
def change (obstacle : Scope → Option ExecError) (f : Scope → Scope) : Exec Unit :=
  ExceptT.mk fun scope =>
    match obstacle scope with
    | some error => (.error error, scope)
    | none => (.ok (), f scope)

/-- Binds a variable. -/
def assign (name : String) (value : Value) : Exec Unit :=
  ExceptT.mk fun scope => (.ok (), scope.insert name value)

/-- The result of an arithmetic operation. -/
def arithmetic (result : Except ArithmeticError Word) : Exec Word :=
  ExceptT.mk fun scope =>
    match result with
    | .ok word => (.ok word, scope)
    | .error error => (.error (.arithmetic error), scope)

end Exec

end UrclDebugger
