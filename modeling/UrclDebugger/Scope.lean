import UrclDebugger.Value

/-!
# Scopes

A scope is the set of variables of one execution environment. The machine has no other state: its
registers, pointers, stack, memory, program and flags are variables with the names below.
-/

namespace UrclDebugger

/-- The variables of an execution environment. -/
abbrev Scope : Type := FiniteMap String Value

namespace Variable

/-- Set before every step; while it is true, a run ends after one instruction. -/
abbrev stepFlag : String := "STEP"

/-- Set when the program has come to its end. -/
abbrev haltFlag : String := "HALT"

/-- Set when the program asks for a pause. -/
abbrev breakFlag : String := "BREAK"

/-- The position of the instruction that runs next. -/
abbrev instructionPointer : String := "IP"

/-- The address of the top of the stack, zero for an empty one. -/
abbrev stackPointer : String := "SP"

/-- The program: a list of instruction objects. -/
abbrev program : String := "ROM"

/-- The memory: a map from addresses to values. -/
abbrev memory : String := "RAM"

/-- The stack cells in the order in which they were pushed. -/
abbrev stack : String := "STACK"

/-- The routine that runs the program. -/
abbrev entry : String := "Execute"

end Variable

end UrclDebugger
