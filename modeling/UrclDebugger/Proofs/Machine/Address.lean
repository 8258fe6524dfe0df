import UrclDebugger.Machine.Memory

/-!
# Addresses of stack cells

Going up or down by one is exact except at the ends of the range of words. Negative addresses and
indices of stack cells correspond one to one, and a write to one cell does not show in another. A
cell lies beyond the limit of the stack exactly when its address is below minus the limit, which is
all that can stand against a store.
-/

namespace UrclDebugger

theorem Word.toInt_add_one {word : Word} (notGreatest : word ≠ Int64.maxValue) :
    (word + 1).toInt = word.toInt + 1 := by
  have below := Int64.toInt_lt word
  have above := Int64.le_toInt word
  have bound : word.toInt ≠ Int64.maxValue.toInt :=
    fun same => notGreatest (Int64.toInt_inj.mp same)
  rw [Int64.toInt_maxValue] at bound
  rw [Int64.toInt_add, Int64.toInt_one, Int.bmod_eq_of_le (by omega) (by omega)]

theorem Word.toInt_sub_one {word : Word} (notLeast : word ≠ Int64.minValue) :
    (word - 1).toInt = word.toInt - 1 := by
  have below := Int64.toInt_lt word
  have above := Int64.le_toInt word
  have bound : word.toInt ≠ Int64.minValue.toInt :=
    fun same => notLeast (Int64.toInt_inj.mp same)
  rw [Int64.toInt_minValue] at bound
  rw [Int64.toInt_sub, Int64.toInt_one, Int.bmod_eq_of_le (by omega) (by omega)]

/-- Only the least word has none below it. -/
theorem Word.sub?_one (word : Word) :
    word.sub? 1 = if word = Int64.minValue then none else some (word - 1) := by
  split
  · rename_i least
    subst least
    decide
  · rename_i notLeast
    rw [Word.sub?, Word.ofInt?_eq_some_iff, Word.toInt_sub_one notLeast, Int64.toInt_one]

/-- Moving on takes back what a jump leaves for it. -/
theorem Word.sub_one_add_one (word : Word) : word - 1 + 1 = word := Int64.sub_add_cancel word 1

theorem Word.lt_zero_iff {word : Word} : word < 0 ↔ word.toInt < 0 := by
  rw [Int64.lt_iff_toInt_lt, Int64.toInt_zero]

namespace Memory

theorem stackIndex_of_neg {address : Word} (negative : address < 0) :
    (stackIndex address : Int) = -address.toInt - 1 := by
  have sign := Word.lt_zero_iff.mp negative
  have notGreatest : address ≠ Int64.maxValue := by
    rintro rfl
    exact absurd negative (by decide)
  rw [stackIndex, Word.toInt_add_one notGreatest]
  omega

/-- Different negative addresses have different cells. -/
theorem stackIndex_inj {address other : Word} (negative : address < 0) (otherNegative : other < 0) :
    stackIndex other = stackIndex address ↔ other = address := by
  constructor
  · intro same
    have here := stackIndex_of_neg negative
    have there := stackIndex_of_neg otherNegative
    exact Int64.toInt_inj.mp (by omega)
  · rintro rfl
    rfl

theorem stackLimit_le_stackIndex {address : Word} (negative : address < 0) :
    stackLimit ≤ stackIndex address ↔ address.toInt < -1048576 := by
  have index := stackIndex_of_neg negative
  unfold stackLimit
  omega

/-- A cell that is filled with zero on the way to the written one reads as it did when it was
absent. -/
theorem getD_writeCell_of_ne {cells : Array Value} {index written : Nat}
    (different : index ≠ written) (value : Value) :
    ((writeCell cells written value)[index]?).getD (.int 0) = (cells[index]?).getD (.int 0) := by
  rw [getElem?_writeCell, if_neg different]
  split
  · rename_i filled
    rw [Array.getElem?_eq_none filled.1, Option.getD_some, Option.getD_none]
  · rfl

/-- Between a list and a map nothing but the limit of the stack stands against a store. -/
theorem obstacle?_of_containers {scope : Scope} {cells : Array Value}
    {entries : FiniteMap Word Value} (stack : scope.get? Variable.stack = some (.list cells))
    (memory : scope.get? Variable.memory = some (.map entries)) (address : Word) :
    obstacle? address scope =
      if address.toInt < -1048576 then some (.stackAddress address) else none := by
  unfold obstacle?
  rw [stack, memory]
  by_cases negative : address < 0
  · simp only [negative, ↓reduceIte, stackLimit_le_stackIndex negative]
  · have fits : ¬ address.toInt < -1048576 := by
      have natural := mt Word.lt_zero_iff.mpr negative
      omega
    simp only [negative, ↓reduceIte, fits]

end Memory

end UrclDebugger
