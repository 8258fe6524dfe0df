import UrclDebugger.Machine.Exec

/-!
# The address space

One address space is split by sign. An address from zero up is a cell of the memory map, a negative
one is a cell of the stack list: the cell at index `-address - 1`. Cells that were never written
read as zero. A store below the stack fills the cells in between with zeros, down to a limit.
-/

namespace UrclDebugger.Memory

/-- The largest number of cells that a store makes the stack grow to: two to the power of twenty. -/
def stackLimit : Nat := 1048576

/-- The index of the stack cell at a negative address. -/
def stackIndex (address : Word) : Nat := (address + 1).toInt.natAbs

/-- The stack with one cell written, grown by zeros if the cell lies behind its end. -/
def writeCell (cells : Array Value) (index : Nat) (value : Value) : Array Value :=
  let grown :=
    if index < cells.size then cells
    else cells ++ Array.replicate (index + 1 - cells.size) (.int 0)
  grown.setIfInBounds index value

theorem size_writeCell (cells : Array Value) (index : Nat) (value : Value) :
    (writeCell cells index value).size = max cells.size (index + 1) := by
  unfold writeCell
  split <;> simp <;> omega

/-- A write changes one cell; cells between the old end and it are zero. -/
theorem getElem?_writeCell (cells : Array Value) (index : Nat) (value : Value) (other : Nat) :
    (writeCell cells index value)[other]? =
      if other = index then some value
      else if cells.size ≤ other ∧ other < index then some (.int 0)
      else cells[other]? := by
  unfold writeCell
  by_cases inside : index < cells.size
  · simp only [inside, ↓reduceIte, Array.getElem?_setIfInBounds]
    by_cases here : index = other
    · simp [here]
    · have : ¬(cells.size ≤ other ∧ other < index) := by omega
      simp [here, Ne.symm here, this]
  · simp only [inside, ↓reduceIte, Array.getElem?_setIfInBounds, Array.size_append,
      Array.size_replicate, Array.getElem?_append, Array.getElem?_replicate]
    by_cases here : index = other
    · subst here
      have : index < cells.size + (index + 1 - cells.size) := by omega
      simp [this]
    · simp only [here, Ne.symm here, ↓reduceIte]
      by_cases old : other < cells.size
      · have : ¬(cells.size ≤ other ∧ other < index) := by omega
        simp [old, this]
      · by_cases filled : other < index
        · have grown : other - cells.size < index + 1 - cells.size := by omega
          have beyond : cells.size ≤ other := by omega
          simp [old, filled, grown, beyond]
        · have notGrown : ¬ other - cells.size < index + 1 - cells.size := by omega
          have beyond : cells.size ≤ other := by omega
          simp [filled, old, notGrown]

/-- The value at an address. -/
def load (scope : Scope) (address : Word) : Except ExecError Value :=
  if address < 0 then
    match scope.get? Variable.stack with
    | some (.list cells) => .ok ((cells[stackIndex address]?).getD (.int 0))
    | some _ => .error .stackNotList
    | none => .error (.undefined Variable.stack)
  else
    match scope.get? Variable.memory with
    | some (.map cells) => .ok ((cells.get? address).getD (.int 0))
    | some _ => .error .memoryNotMap
    | none => .error (.undefined Variable.memory)

/-- What stands against a store at an address. -/
def obstacle? (address : Word) (scope : Scope) : Option ExecError :=
  if address < 0 then
    if stackLimit ≤ stackIndex address then some (.stackAddress address)
    else
      match scope.get? Variable.stack with
      | some (.list _) => none
      | some _ => some .stackNotList
      | none => some (.undefined Variable.stack)
  else
    match scope.get? Variable.memory with
    | none | some (.map _) => none
    | some _ => some .memoryNotMap

/-- A stack with a value at an address. Anything but a list stays as it is. -/
def writeStack (address : Word) (value : Value) : Option Value → Value
  | some (.list cells) => .list (writeCell cells (stackIndex address) value)
  | other => other.getD (.list #[])

/-- A memory with a value at an address. Anything but a map stays as it is, and an unbound memory
is created. -/
def writeMemory (address : Word) (value : Value) : Option Value → Value
  | some (.map cells) => .map (FiniteMap.insert cells address value)
  | some other => other
  | none => .map (FiniteMap.insert ∅ address value)

/-- The scope with a value at an address. -/
def write (address : Word) (value : Value) (scope : Scope) : Scope :=
  if address < 0 then scope.alter Variable.stack (writeStack address value)
  else scope.alter Variable.memory (writeMemory address value)

/-- Stores a value at an address. An unbound memory is created by its first store. -/
def store (address : Word) (value : Value) : Exec Unit :=
  Exec.change (obstacle? address) (write address value)

/-- Moves the stack pointer down by one and stores a value there. The pointer stays moved if the
store fails. -/
def push (value : Value) : Exec Unit := do
  let pointer ← Exec.read (·.requireInt Variable.stackPointer)
  let lowered ← Exec.arithmetic (Alu.Binary.sub.apply pointer 1)
  Exec.assign Variable.stackPointer (.int lowered)
  store lowered value

/-- The value at the stack pointer, which moves up by one. An empty stack has nothing to give. -/
def pop : Exec Value := do
  let pointer ← Exec.read (·.requireInt Variable.stackPointer)
  if 0 ≤ pointer then throw .stackUnderflow
  let value ← Exec.read (load · pointer)
  Exec.assign Variable.stackPointer (.int (pointer + 1))
  return value

end UrclDebugger.Memory
