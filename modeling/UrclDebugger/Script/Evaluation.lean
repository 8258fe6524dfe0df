import UrclDebugger.Scope
import UrclDebugger.Script.Parser

/-!
# Values of expressions

Evaluating an expression reads the scope and changes nothing. Parts are evaluated from left to
right, except that a position is evaluated before what it is a position in; the first part without
a value decides the error.
-/

namespace UrclDebugger

/-- Why an expression has no value in a scope. -/
inductive EvalError where
  /-- The scope binds no such variable, or no such function exists. -/
  | undefined (name : String)
  | unreadable (error : ParseError)
  | overflow
  | notNegatable (kind : Value.Kind)
  | positionNotInt (kind : Value.Kind)
  | keyNotInt (kind : Value.Kind)
  | outOfRange
  | noEntry (address : Word)
  | notIndexable (kind : Value.Kind)
  | noField (kind : Value.Kind) (field : String)
  | noLength (kind : Value.Kind)
  | argumentCount (function : String)
  | assignmentOutOfRange
  | itemsNotAssignable (kind : Value.Kind)
  deriving DecidableEq

/-- The wording of an evaluation error. -/
def EvalError.message : EvalError → String
  | .undefined name => "name '" ++ name ++ "' is not defined"
  | .unreadable error => error.message
  | .overflow => "integer overflow"
  | .notNegatable kind => "can not negate " ++ kind.name
  | .positionNotInt kind => "indices must be int, not " ++ kind.name
  | .keyNotInt kind => "map keys must be int, not " ++ kind.name
  | .outOfRange => "list index out of range"
  | .noEntry address => "no entry at " ++ address.toDecimal
  | .notIndexable kind => kind.name ++ " is not indexable"
  | .noField kind field => kind.name ++ " has no field '" ++ field ++ "'"
  | .noLength kind => kind.name ++ " has no length"
  | .argumentCount function => function ++ "() takes exactly one argument"
  | .assignmentOutOfRange => "list assignment index out of range"
  | .itemsNotAssignable kind => kind.name ++ " does not support item assignment"

namespace Value

/-- The place in a sequence of the given size that a position means. A negative position counts
from the end. -/
def slot? (size : Nat) (position : Word) : Option Nat :=
  let resolved : Int := if position < 0 then size + position.toInt else position.toInt
  if 0 ≤ resolved ∧ resolved < size then some resolved.toNat else none

/-- A position means a place when it names it from the front or, negative, from the end. -/
theorem slot?_eq_some_iff {size : Nat} {position : Word} {slot : Nat} :
    slot? size position = some slot ↔
      slot < size ∧ (position.toInt = slot ∨ position.toInt = (slot : Int) - size) := by
  have sign : position < 0 ↔ position.toInt < 0 := Int64.lt_iff_toInt_lt
  unfold slot?
  by_cases negative : position < 0
  · simp only [negative, ↓reduceIte, Option.ite_none_right_eq_some, Option.some.injEq]
    have := sign.mp negative
    omega
  · simp only [negative, ↓reduceIte, Option.ite_none_right_eq_some, Option.some.injEq]
    rw [sign] at negative
    omega

/-- The item of a list or the cell of a map. -/
def item (base : Value) (position : Word) : Except EvalError Value :=
  match base with
  | .list items =>
    match (slot? items.size position).bind (items[·]?) with
    | some value => .ok value
    | none => .error .outOfRange
  | .map cells =>
    match cells.get? position with
    | some value => .ok value
    | none => .error (.noEntry position)
  | other => .error (.notIndexable other.kind)

/-- The field of an object. -/
def field (base : Value) (name : String) : Except EvalError Value :=
  match base.field? name with
  | some value => .ok value
  | none => .error (.noField base.kind name)

/-- The number of items, cells or characters. -/
def length (value : Value) : Except EvalError Nat :=
  match value with
  | .list items => .ok items.size
  | .map cells => .ok cells.size
  | .text content => .ok content.length
  | other => .error (.noLength other.kind)

/-- The value with the opposite sign. -/
def negate (value : Value) : Except EvalError Value :=
  match value with
  | .int n =>
    match n.neg? with
    | some negated => .ok (.int negated)
    | none => .error .overflow
  | other => .error (.notNegatable other.kind)

/-- A value used as a position. -/
def position (value : Value) : Except EvalError Word :=
  match value with
  | .int n => .ok n
  | other => .error (.positionNotInt other.kind)

/-- A value used as the key of a map. -/
def key (value : Value) : Except EvalError Word :=
  match value with
  | .int n => .ok n
  | other => .error (.keyNotInt other.kind)

end Value

namespace Expr

/-- Calls a built-in function: `len` counts and `str` gives the text of its argument. -/
def callBuiltin (function : String) (arguments : List Value) : Except EvalError Value :=
  if function = "len" then
    match arguments with
    | [value] => value.length.map fun n => .int (Int64.ofNat n)
    | _ => .error (.argumentCount function)
  else if function = "str" then
    match arguments with
    | [value] => .ok (.text value.render)
    | _ => .error (.argumentCount function)
  else .error (.undefined function)

mutual

/-- The value of an expression in a scope. -/
def evaluate (scope : Scope) : Expr → Except EvalError Value
  | .literal value => .ok value
  | .name wanted =>
    match scope.get? wanted with
    | some value => .ok value
    | none => .error (.undefined wanted)
  | .list items => (evaluateAll scope items).map fun values => .list values.toArray
  | .map entries => (evaluateEntries scope ∅ entries).map .map
  | .index base place => do
    let position ← (← evaluate scope place).position
    (← evaluate scope base).item position
  | .field base wanted => do (← evaluate scope base).field wanted
  | .call function arguments => do callBuiltin function (← evaluateAll scope arguments)
  | .negate operand => do (← evaluate scope operand).negate
termination_by structural expression => expression

/-- The values of expressions, from left to right. -/
def evaluateAll (scope : Scope) : List Expr → Except EvalError (List Value)
  | [] => .ok []
  | expression :: rest => do
    let value ← evaluate scope expression
    let values ← evaluateAll scope rest
    return value :: values
termination_by structural expressions => expressions

/-- The cells `built` with the entries added to them; the last entry of a key stays. -/
def evaluateEntries (scope : Scope) (built : FiniteMap Word Value) :
    List (Expr × Expr) → Except EvalError (FiniteMap Word Value)
  | [] => .ok built
  | (key, value) :: rest => do
    let key ← (← evaluate scope key).key
    let value ← evaluate scope value
    evaluateEntries scope (built.insert key value) rest
termination_by structural entries => entries

end

/-- The value of the expression that a text is. -/
def evaluateText (scope : Scope) (text : String) : Except EvalError Value :=
  match Expr.parse text with
  | .ok expression => expression.evaluate scope
  | .error error => .error (.unreadable error)

end Expr

end UrclDebugger
