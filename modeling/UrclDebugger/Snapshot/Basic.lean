import UrclDebugger.Value

/-!
# Snapshots

A snapshot is what the user sees of a scope at one moment: the registers, the program with the
instruction pointer, the stack with the stack pointer, and the memory. Program and stack are absent
when the scope does not hold them.
-/

namespace UrclDebugger

/-- A variable that holds an integer or a boolean. -/
structure Register where
  name : String
  value : Value
  deriving DecidableEq

namespace Register

/-- The text of the register's value. -/
def text (register : Register) : String := register.value.render

/-- The order of display: by the length of the name in bytes, then by the name. -/
def precedes (a b : Register) : Bool :=
  a.name.utf8ByteSize < b.name.utf8ByteSize ||
    (a.name.utf8ByteSize == b.name.utf8ByteSize && decide (a.name ≤ b.name))

/-- Registers in the order of display; registers of one name stay in their order. -/
def sort (registers : List Register) : List Register :=
  registers.mergeSort precedes

end Register

/-- The instructions of a program and the position of the one that runs next. -/
structure ProgramListing where
  pointer : Word
  instructions : Array String
  deriving DecidableEq

/-- The index of the instruction that runs next, if the pointer lies inside the program. -/
def ProgramListing.current? (listing : ProgramListing) : Option Nat :=
  listing.pointer.toIndex?.filter (· < listing.instructions.size)

/-- The cells of a stack and the address of its top. -/
structure StackView where
  pointer : Word
  cells : Array String
  deriving DecidableEq

namespace StackView

/-- The index that the pointer means, inside the stack or not. -/
def activeIndex (view : StackView) : Word := -view.pointer - 1

/-- The index of the top cell, if the pointer lies inside the stack. -/
def active? (view : StackView) : Option Nat :=
  view.activeIndex.toIndex?.filter (· < view.cells.size)

end StackView

/-- A row of the memory listing. -/
inductive MemoryRow where
  /-- Stands for absent addresses between two cells. -/
  | gap
  | cell (address : Word) (text : String)
  deriving DecidableEq, Repr

namespace MemoryRow

/-- The text of a row. -/
def text : MemoryRow → String
  | gap => "..."
  | cell address value => address.toDecimal ++ ": " ++ value

/-- The address of a cell. -/
def address? : MemoryRow → Option Word
  | gap => none
  | cell address _ => some address

/-- The rows of cells that follow the cell at address `last`: a gap stands before every cell whose
address is not the next one. -/
def layoutAfter (last : Word) : List (Word × String) → List MemoryRow
  | [] => []
  | (address, value) :: rest =>
    let following := layoutAfter address rest
    if last.add? 1 = some address then cell address value :: following
    else gap :: cell address value :: following

/-- The rows of a listing. The cell before the first one is taken to be at address `-1`. -/
def layout (cells : List (Word × String)) : List MemoryRow :=
  layoutAfter (-1) cells

end MemoryRow

/-- What the user sees of a scope at one moment. -/
structure Snapshot where
  registers : List Register := []
  program : Option ProgramListing := none
  stack : Option StackView := none
  memory : List MemoryRow := []
  deriving DecidableEq, Inhabited

namespace Snapshot

/-- Whether there is nothing to see. -/
def isEmpty (snapshot : Snapshot) : Bool :=
  snapshot.registers.isEmpty && snapshot.program.isNone && snapshot.stack.isNone &&
    snapshot.memory.isEmpty

/-- The addresses of the memory cells in the order of display. -/
def addresses (snapshot : Snapshot) : List Word :=
  snapshot.memory.filterMap MemoryRow.address?

end Snapshot

end UrclDebugger
