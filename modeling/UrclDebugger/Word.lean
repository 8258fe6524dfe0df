/-!
# Machine words

Registers, memory cells, addresses and script integers are signed 64-bit words. The checked
operations compute the exact integer and answer only when a word can hold it, so nothing wraps
unless an operation says so.
-/

namespace UrclDebugger

/-- A signed 64-bit word. -/
abbrev Word := Int64

namespace Word

/-- The word with the given value, if there is one. -/
def ofInt? (value : Int) : Option Word :=
  if Int64.minValue.toInt ≤ value ∧ value ≤ Int64.maxValue.toInt then
    some (Int64.ofInt value)
  else none

/-- A number has a word exactly when it is the word's value. -/
theorem ofInt?_eq_some_iff {value : Int} {word : Word} :
    ofInt? value = some word ↔ word.toInt = value := by
  have least := Int64.minValue_le_toInt word
  have greatest := Int64.toInt_le word
  unfold ofInt?
  constructor
  · intro found
    split at found
    · rename_i fits
      rw [← Option.some.inj found]
      exact Int64.toInt_ofInt_of_le fits.1 (Int.lt_add_one_of_le fits.2)
    · exact nomatch found
  · rintro rfl
    rw [if_pos ⟨least, greatest⟩, Int64.ofInt_toInt]

/-- A number has no word exactly when it lies outside their range. -/
theorem ofInt?_eq_none_iff {value : Int} :
    ofInt? value = none ↔ value < Int64.minValue.toInt ∨ Int64.maxValue.toInt < value := by
  simp only [ofInt?, ite_eq_right_iff, reduceCtorEq, imp_false]
  omega

@[simp] theorem ofInt?_toInt (word : Word) : ofInt? word.toInt = some word :=
  ofInt?_eq_some_iff.mpr rfl

/-- The exact sum, if a word can hold it. -/
def add? (a b : Word) : Option Word := ofInt? (a.toInt + b.toInt)

/-- The exact difference, if a word can hold it. -/
def sub? (a b : Word) : Option Word := ofInt? (a.toInt - b.toInt)

/-- The exact product, if a word can hold it. -/
def mul? (a b : Word) : Option Word := ofInt? (a.toInt * b.toInt)

/-- The exact negation, if a word can hold it. -/
def neg? (a : Word) : Option Word := ofInt? (-a.toInt)

/-- The word as a position in a sequence; a negative word is none. -/
def toIndex? (a : Word) : Option Nat :=
  if 0 ≤ a then some a.toInt.toNat else none

/-- A word is a position exactly when its value is that position. -/
theorem toIndex?_eq_some_iff {word : Word} {index : Nat} :
    word.toIndex? = some index ↔ word.toInt = index := by
  unfold toIndex?
  have sign : 0 ≤ word ↔ 0 ≤ word.toInt := Int64.le_iff_toInt_le
  by_cases natural : 0 ≤ word
  · have := sign.mp natural
    simp only [natural, ↓reduceIte, Option.some.injEq]
    omega
  · simp only [natural, ↓reduceIte, reduceCtorEq, false_iff]
    rw [sign] at natural
    omega

/-- The decimal text of a word: a minus sign for a negative one, no leading zeros. -/
def toDecimal (a : Word) : String := toString a.toInt

/-- The quotient rounded to the floor. A truncated quotient is one too large exactly when the
division is inexact and the signs differ. The divisor is not zero, and the two words are not the
least word and `-1`. -/
def floorQuotient (a b : Word) : Word :=
  let quotient := a / b
  if a % b ≠ 0 ∧ (decide (a < 0) ≠ decide (b < 0)) then quotient - 1 else quotient

/-- The remainder with the sign of the divisor, under the same conditions. -/
def floorRemainder (a b : Word) : Word :=
  let remainder := a % b
  if remainder ≠ 0 ∧ (decide (remainder < 0) ≠ decide (b < 0)) then remainder + b else remainder

end Word

end UrclDebugger
