import UrclDebugger.Text.Blank

/-!
# Operands

An operand is a word of assembly text. It names a register, names a label, or is an integer
literal. A label's position is kept in a variable of its own, named after the label without its
leading dots.
-/

namespace UrclDebugger.Operand

/-- The register that always reads as zero and is never assigned. -/
def zeroRegister : String := "R0"

/-- The stack pointer and `R` followed by one or more decimal digits name registers. -/
def isRegister (operand : String) : Bool :=
  operand == "SP" ||
    match operand.toList with
    | 'R' :: digits => !digits.isEmpty && digits.all Char.isDigit
    | _ => false

/-- Whether the characters are a dot followed by at least one more character and no blank. -/
def isLabelText : List Char → Bool
  | '.' :: c :: rest => !(c :: rest).any Text.isBlank
  | _ => false

/-- Whether the operand names a label. -/
def isLabel (operand : String) : Bool := isLabelText operand.toList

/-- The variable that holds a label's position. -/
def labelVariable (label : String) : String :=
  "LABEL_" ++ String.ofList (label.toList.dropWhile (· == '.'))

end UrclDebugger.Operand
