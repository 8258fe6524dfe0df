import UrclDebugger.Word

/-!
# Arithmetic and logic of the machine

The operations on words that instructions perform. Sums, differences, products and left shifts are
exact or fail; division rounds to the floor and the remainder has the sign of the divisor; a right
shift rounds to the floor; bitwise operations never fail.
-/

namespace UrclDebugger

/-- Why an operation on words has no result. -/
inductive ArithmeticError where
  | overflow
  | divisionByZero
  | negativeShift
  deriving DecidableEq, Repr

/-- The wording of an arithmetic error. -/
def ArithmeticError.message : ArithmeticError → String
  | .overflow => "integer overflow"
  | .divisionByZero => "integer division or modulo by zero"
  | .negativeShift => "negative shift count"

namespace Alu

/-- Operations on two words. -/
inductive Binary where
  | add | sub | mul | div | mod | and | or | xor | shiftLeft | shiftRight
  deriving DecidableEq, Repr

/-- Operations on one word. -/
inductive Unary where
  | shiftLeft | shiftRight | increment | decrement | complement
  deriving DecidableEq, Repr

/-- Tests on two words. -/
inductive Test where
  | equal | different | less | greater | lessOrEqual | greaterOrEqual
  deriving DecidableEq, Repr

/-- A checked result, or the error that stands for its absence. -/
def orOverflow (result : Option Word) : Except ArithmeticError Word :=
  match result with
  | some word => .ok word
  | none => .error .overflow

/-- Checks a divisor: not zero, and not `-1` under the least word. -/
def checkDivision (a b : Word) : Except ArithmeticError Unit :=
  if b = 0 then .error .divisionByZero
  else if a = Int64.minValue ∧ b = -1 then .error .overflow
  else .ok ()

/-- The quotient rounded to the floor. -/
def floorDiv (a b : Word) : Except ArithmeticError Word :=
  (checkDivision a b).map fun _ => Word.floorQuotient a b

/-- The remainder with the sign of the divisor. -/
def floorMod (a b : Word) : Except ArithmeticError Word :=
  (checkDivision a b).map fun _ => Word.floorRemainder a b

/-- A usable shift count. Counts past the last bit shift everything out, as 63 does. -/
def shiftCount (count : Word) : Except ArithmeticError Word :=
  if count < 0 then .error .negativeShift else .ok (min count 63)

/-- A left shift that loses no bit: shifting back must give the operand again. -/
def shiftLeft (a count : Word) : Except ArithmeticError Word :=
  match shiftCount count with
  | .error error => .error error
  | .ok count =>
    let shifted := a <<< count
    if shifted >>> count = a then .ok shifted else .error .overflow

/-- A right shift, which rounds to the floor. -/
def shiftRight (a count : Word) : Except ArithmeticError Word :=
  (shiftCount count).map fun count => a >>> count

/-- The result of an operation on two words. -/
def Binary.apply (op : Binary) (a b : Word) : Except ArithmeticError Word :=
  match op with
  | add => orOverflow (a.add? b)
  | sub => orOverflow (a.sub? b)
  | mul => orOverflow (a.mul? b)
  | div => floorDiv a b
  | mod => floorMod a b
  | and => .ok (a &&& b)
  | or => .ok (a ||| b)
  | xor => .ok (a ^^^ b)
  | shiftLeft => Alu.shiftLeft a b
  | shiftRight => Alu.shiftRight a b

/-- The result of an operation on one word. -/
def Unary.apply (op : Unary) (a : Word) : Except ArithmeticError Word :=
  match op with
  | shiftLeft => Binary.apply .shiftLeft a 1
  | shiftRight => .ok (a >>> 1)
  | increment => orOverflow (a.add? 1)
  | decrement => orOverflow (a.sub? 1)
  | complement => .ok (~~~a)

/-- Whether a test holds of two words. -/
def Test.holds (test : Test) (a b : Word) : Bool :=
  match test with
  | equal => a = b
  | different => a ≠ b
  | less => a < b
  | greater => b < a
  | lessOrEqual => a ≤ b
  | greaterOrEqual => b ≤ a

end Alu

end UrclDebugger
