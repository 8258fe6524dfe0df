import UrclDebugger.Script.Evaluation
import UrclDebugger.Text.Lines

/-!
# Running scripts

A script is one statement per line. Its lines run in order, each in the scope that the lines before
it left. The first line that can not be read or has no value ends the script and changes nothing;
what the lines before it bound stays bound.
-/

namespace UrclDebugger

namespace Value

/-- A list or map with one item replaced. A list keeps its size; a map takes any key. -/
def setItem (base : Value) (position : Word) (value : Value) : Except EvalError Value :=
  match base with
  | .list items =>
    match slot? items.size position with
    | some slot => .ok (.list (items.setIfInBounds slot value))
    | none => .error .assignmentOutOfRange
  | .map cells => .ok (.map (FiniteMap.insert cells position value))
  | other => .error (.itemsNotAssignable other.kind)

end Value

/-- The scope after a statement. -/
def Statement.run (scope : Scope) : Statement → Except EvalError Scope
  | .expression dropped => (dropped.evaluate scope).map fun _ => scope
  | .assign name none value => do
    let value ← value.evaluate scope
    return scope.insert name value
  | .assign name (some position) value => do
    let position ← (← position.evaluate scope).position
    let value ← value.evaluate scope
    match scope.get? name with
    | none => throw (.undefined name)
    | some base => return scope.insert name (← base.setItem position value)

/-- Why a line of a script fails. -/
inductive StatementError where
  | parse (error : ParseError)
  | eval (error : EvalError)
  deriving DecidableEq

/-- The wording of a line's failure. -/
def StatementError.message : StatementError → String
  | .parse error => error.message
  | .eval error => error.message

/-- The first line, counted from one, that fails. -/
structure ScriptError where
  line : Nat
  cause : StatementError
  deriving DecidableEq

/-- The wording of a script's failure. -/
def ScriptError.message (error : ScriptError) : String :=
  "line " ++ toString error.line ++ ": " ++ error.cause.message

namespace Script

/-- What running a script leaves. -/
structure Outcome where
  scope : Scope
  failure : Option ScriptError

/-- The scope after one line; a line without a statement leaves it as it is. -/
def runLine (scope : Scope) (line : List Char) : Except StatementError Scope :=
  match Statement.parse (String.ofList line) with
  | .error error => .error (.parse error)
  | .ok none => .ok scope
  | .ok (some statement) =>
    match statement.run scope with
    | .ok changed => .ok changed
    | .error error => .error (.eval error)

/-- Runs lines, the first of which has the given number. -/
def runLines (number : Nat) (scope : Scope) : List (List Char) → Outcome
  | [] => ⟨scope, none⟩
  | line :: rest =>
    match runLine scope line with
    | .ok changed => runLines (number + 1) changed rest
    | .error cause => ⟨scope, some ⟨number, cause⟩⟩

/-- Runs a whole script. -/
def run (scope : Scope) (text : String) : Outcome :=
  runLines 1 scope (Text.lines text.toList)

end Script

end UrclDebugger
