import UrclDebugger.Assembly.Instruction

/-!
# Lines of assembly text

A line holds nothing, a label, or an instruction. A comment starts at the first `//`. A label
stands alone on its line. Words are separated by blanks and commas, the first word is the operation
in any case of letters, and a line whose first word is a header is skipped.
-/

namespace UrclDebugger

/-- What a line of assembly text says. -/
inductive AssemblyLine where
  /-- Marks the position of the next instruction. -/
  | label (name : String)
  | instruction (instruction : Instruction)
  deriving DecidableEq, Repr

namespace AssemblyLine

/-- Words that open a line to be skipped. -/
def headers : List String := ["BITS", "MINREG", "MINHEAP", "MINSTACK", "RUN"]

/-- The part of a line before its comment. -/
def beforeComment : List Char → List Char
  | [] => []
  | '/' :: '/' :: _ => []
  | c :: rest => c :: beforeComment rest

/-- Blanks and commas stand between words. -/
def isSeparator (c : Char) : Bool := c == ',' || Text.isBlank c

/-- The longest runs of characters without separators. -/
def words : List Char → List (List Char)
  | [] => []
  | c :: rest =>
    if isSeparator c then words rest
    else
      match rest, words rest with
      | next :: _, word :: others =>
        if isSeparator next then [c] :: word :: others else (c :: word) :: others
      | _, others => [c] :: others

/-- A word in upper case; only the letters of ASCII have one. -/
def upperCase (word : List Char) : String := String.ofList (word.map Char.toUpper)

/-- The meaning of one line; nothing for an empty line, a comment and a header. -/
def parse? (line : List Char) : Option AssemblyLine :=
  let code := Text.trim (beforeComment line)
  if Operand.isLabelText code then some (.label (String.ofList code))
  else
    match words code with
    | [] => none
    | operation :: operands =>
      if headers.contains (upperCase operation) then none
      else some (.instruction ⟨upperCase operation, operands.map String.ofList⟩)

end AssemblyLine

end UrclDebugger
