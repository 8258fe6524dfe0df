import Mathlib.Data.Rat.Floor
import UrclDebugger.Proofs.Machine.Division

/-!
# Shifts

A shift multiplies or divides by a power of two. Counts past the last bit are lowered to 63, which
does not show in a right shift, and a left shift is taken for exact if shifting back gives the
operand again. Both together give the exact result or an overflow with one exception: `-1` shifted
left by more than 63 gives the least word, as if it were shifted by 63 (`shift_exact`).
-/

namespace UrclDebugger

namespace Word

section Count

variable {count : Word} (natural : 0 ≤ count.toInt) (small : count.toInt ≤ 63)

include natural small

/-- The machine takes a count modulo the number of bits, which leaves a small count as it is. -/
theorem toNat_smod : (count.toBitVec.smod 64).toNat = count.toInt.toNat := by
  have exact : (count.toBitVec.smod 64).toInt = count.toInt := by
    rw [BitVec.toInt_smod, Int64.toInt_toBitVec, Int.fmod_eq_emod_of_nonneg _ (by decide)]
    exact Int.emod_eq_of_lt natural (Int.lt_add_one_of_le small)
  have sign := BitVec.toInt_eq_toNat_cond (count.toBitVec.smod 64)
  split at sign <;> omega

theorem toInt_shiftRight (a : Word) : (a >>> count).toInt = a.toInt / 2 ^ count.toInt.toNat := by
  rw [← Int64.toInt_toBitVec, Int64.toBitVec_shiftRight, BitVec.toInt_sshiftRight',
    toNat_smod natural small, Int.shiftRight_eq_div_pow, Int64.toInt_toBitVec]
  norm_cast

theorem toInt_shiftLeft (a : Word) :
    (a <<< count).toInt = (a.toInt * 2 ^ count.toInt.toNat).bmod (2 ^ 64) := by
  have reduced : a.toInt = (a.toBitVec.toNat : Int).bmod (2 ^ 64) := BitVec.toInt_eq_toNat_bmod _
  rw [← Int64.toInt_toBitVec, Int64.toBitVec_shiftLeft, BitVec.shiftLeft_eq',
    toNat_smod natural small, BitVec.toInt_shiftLeft, Nat.shiftLeft_eq, reduced, Int.bmod_mul_bmod]
  push_cast
  rfl

end Count

/-- A product with a power of two that is reduced to a word gives its factor back exactly if the
reduction has changed nothing. -/
theorem bmod_div_eq_iff (factor : Int) {places : Nat} (small : places ≤ 63) :
    (factor * 2 ^ places).bmod (2 ^ 64) / 2 ^ places = factor ↔
      (factor * 2 ^ places).bmod (2 ^ 64) = factor * 2 ^ places := by
  have positive : (0 : Int) < 2 ^ places := by positivity
  constructor
  · intro back
    have divides : (2 : Int) ^ places ∣ ((2 ^ 64 : Nat) : Int) := by
      exact_mod_cast Nat.pow_dvd_pow 2 (by omega)
    have multiple : (2 : Int) ^ places ∣ (factor * 2 ^ places).bmod (2 ^ 64) := by
      rw [← Int.sub_eq_iff_eq_add.mpr (Int.bmod_add_bdiv (factor * 2 ^ places) (2 ^ 64)).symm]
      exact Int.dvd_sub (Int.dvd_mul_left _ _) (Int.dvd_mul_of_dvd_left divides)
    rw [← Int.ediv_mul_cancel multiple, back]
  · intro same
    rw [same, Int.mul_ediv_cancel _ positive.ne']

section Past

variable {places : Nat} (large : 63 ≤ places)

include large

/-- Of a word nothing but the sign is left once all its bits are shifted out. -/
theorem toInt_div_two_pow (a : Word) : a.toInt / 2 ^ places = a.toInt / 2 ^ 63 := by
  have least := Int64.le_toInt a
  have greatest := Int64.toInt_lt a
  have order : (2 : Int) ^ 63 ≤ 2 ^ places := by gcongr; decide
  by_cases natural : 0 ≤ a.toInt
  · rw [Int.ediv_eq_zero_of_lt natural (by omega), Int.ediv_eq_zero_of_lt natural greatest]
  · rw [Int.ediv_eq_neg_one_of_neg_of_le (by omega) (by omega),
      Int.ediv_eq_neg_one_of_neg_of_le (by omega) (by omega)]

theorem ofInt?_mul_two_pow_eq_none {factor : Int} (notZero : factor ≠ 0)
    (notMinusOne : factor ≠ -1) : ofInt? (factor * 2 ^ places) = none := by
  have order : (2 : Int) ^ 63 ≤ 2 ^ places := by gcongr; decide
  rw [ofInt?_eq_none_iff, Int64.toInt_minValue, Int64.toInt_maxValue]
  rcases (by omega : 1 ≤ factor ∨ factor ≤ -2) with positive | negative
  · right
    nlinarith only [order, positive]
  · left
    nlinarith only [order, negative]

/-- A word other than `-1` can not be multiplied by two to the power of 63 or more, unless it is
zero. -/
theorem ofInt?_mul_two_pow {factor : Int} (notMinusOne : factor ≠ -1) :
    ofInt? (factor * 2 ^ places) = ofInt? (factor * 2 ^ 63) := by
  by_cases zero : factor = 0
  · rw [zero, Int.zero_mul, Int.zero_mul]
  · rw [ofInt?_mul_two_pow_eq_none large zero notMinusOne,
      ofInt?_mul_two_pow_eq_none (Nat.le_refl 63) zero notMinusOne]

end Past

end Word

namespace Alu

section Count

variable {count : Word}

/-- Counts past the last bit count as 63. -/
theorem shiftCount_of_lt (large : 63 < count.toInt) : shiftCount count = .ok 63 := by
  have notNegative : ¬ count < 0 := by
    rw [Word.lt_zero_iff]
    omega
  have lowered : min count 63 = 63 :=
    if_neg fun small => Int.not_le.mpr large (Int64.le_iff_toInt_le.mp small)
  rw [shiftCount, if_neg notNegative, lowered]

section Natural

variable (natural : 0 ≤ count.toInt)

include natural

theorem shiftCount_of_le (small : count.toInt ≤ 63) : shiftCount count = .ok count := by
  have notNegative : ¬ count < 0 := by
    rw [Word.lt_zero_iff]
    omega
  have lowered : min count 63 = count := if_pos (Int64.le_iff_toInt_le.mpr small)
  rw [shiftCount, if_neg notNegative, lowered]

/-- Shifting back tells whether a left shift within the word has lost anything. -/
theorem shiftLeft_of_le (small : count.toInt ≤ 63) (a : Word) :
    shiftLeft a count = orOverflow (Word.ofInt? (a.toInt * 2 ^ count.toInt.toNat)) := by
  have shifted := Word.toInt_shiftLeft natural small a
  have back : (a <<< count) >>> count = a ↔
      (a <<< count).toInt = a.toInt * 2 ^ count.toInt.toNat := by
    rw [← Int64.toInt_inj, Word.toInt_shiftRight natural small, shifted]
    exact Word.bmod_div_eq_iff _ (by omega)
  simp only [shiftLeft, shiftCount_of_le natural small, back]
  split
  · rename_i exact
    rw [Word.ofInt?_eq_some_iff.mpr exact, orOverflow]
  · rename_i lost
    cases held : Word.ofInt? (a.toInt * 2 ^ count.toInt.toNat) with
    | none => rfl
    | some word =>
      have value := Word.ofInt?_eq_some_iff.mp held
      have kept : (a <<< count).toInt = word.toInt := by
        rw [shifted, ← value]
        exact Int.bmod_eq_of_le (Int64.le_toInt word) (Int64.toInt_lt word)
      exact absurd (kept.trans value) lost

end Natural

/-- A left shift past the last bit is exact as well, unless the operand is `-1`. -/
theorem shiftLeft_of_lt (large : 63 < count.toInt) {a : Word} (notMinusOne : a ≠ -1) :
    shiftLeft a count = orOverflow (Word.ofInt? (a.toInt * 2 ^ count.toInt.toNat)) := by
  have last : shiftLeft a count = shiftLeft a 63 := by
    rw [shiftLeft, shiftLeft, shiftCount_of_lt large]
    rfl
  have factor : a.toInt ≠ -1 := fun same => notMinusOne (Int64.toInt_inj.mp same)
  have places : 63 ≤ count.toInt.toNat := by omega
  rw [last, shiftLeft_of_le (by decide) (by decide), Word.ofInt?_mul_two_pow places factor]
  rfl

theorem shiftRight_floors (natural : 0 ≤ count.toInt) (a : Word) :
    ∃ shifted, shiftRight a count = .ok shifted ∧
      shifted.toInt = ⌊(a.toInt : ℚ) / 2 ^ count.toInt.toNat⌋ := by
  have floor (places : Nat) : ⌊(a.toInt : ℚ) / 2 ^ places⌋ = a.toInt / 2 ^ places := by
    rw [← Int.fdiv_eq_ediv_of_nonneg _ (by positivity), ← Word.floor_div_eq_fdiv]
    push_cast
    rfl
  rw [floor]
  rcases Int.lt_or_le 63 count.toInt with large | small
  · have places : 63 ≤ count.toInt.toNat := by omega
    refine ⟨a >>> 63, by rw [shiftRight, shiftCount_of_lt large]; rfl, ?_⟩
    rw [Word.toInt_shiftRight (by decide) (by decide), Word.toInt_div_two_pow places]
    rfl
  · refine ⟨a >>> count, by rw [shiftRight, shiftCount_of_le natural small]; rfl, ?_⟩
    exact Word.toInt_shiftRight natural small a

end Count

/-- Shifts are exact. By a count that is not negative a left shift gives the product with the power
of two, or an overflow if no word holds it, and a right shift gives the quotient rounded to the
floor; a negative count is an error. The one exception is `-1` shifted left past the last bit, where
the least word is given in place of an overflow. Shifts on one operand are shifts by one. -/
theorem shift_exact (a count : Word) :
    (if count < 0 then
      Binary.shiftLeft.apply a count = .error .negativeShift ∧
        Binary.shiftRight.apply a count = .error .negativeShift
    else
      (Binary.shiftLeft.apply a count =
        if a = -1 ∧ 63 < count then .ok Int64.minValue
        else orOverflow (Word.ofInt? (a.toInt * 2 ^ count.toInt.toNat))) ∧
      ∃ shifted, Binary.shiftRight.apply a count = .ok shifted ∧
        shifted.toInt = ⌊(a.toInt : ℚ) / 2 ^ count.toInt.toNat⌋) ∧
    Unary.shiftLeft.apply a = Binary.shiftLeft.apply a 1 ∧
      Unary.shiftRight.apply a = Binary.shiftRight.apply a 1 := by
  refine ⟨?_, rfl, rfl⟩
  show if count < 0 then shiftLeft a count = _ ∧ shiftRight a count = _
    else shiftLeft a count = _ ∧ ∃ shifted, shiftRight a count = _ ∧ _
  split
  · rename_i negative
    rw [shiftLeft, shiftRight, shiftCount, if_pos negative]
    exact ⟨rfl, rfl⟩
  · rename_i notNegative
    rw [Word.lt_zero_iff, Int.not_lt] at notNegative
    refine ⟨?_, shiftRight_floors notNegative a⟩
    have past : 63 < count ↔ 63 < count.toInt := Int64.lt_iff_toInt_lt
    split
    · rename_i exception
      obtain ⟨rfl, large⟩ := exception
      rw [shiftLeft, shiftCount_of_lt (past.mp large)]
      rfl
    · rename_i regular
      rcases Int.lt_or_le 63 count.toInt with large | small
      · exact shiftLeft_of_lt large fun minusOne => regular ⟨minusOne, past.mpr large⟩
      · exact shiftLeft_of_le notNegative small a

/-- Shifted left by 64 places `-1` gives a word, though no word holds the product. -/
theorem shiftLeft_misses_overflow :
    Binary.shiftLeft.apply (-1) 64 = .ok Int64.minValue ∧
      Word.ofInt? ((-1 : Word).toInt * 2 ^ (64 : Word).toInt.toNat) = none := by
  refine ⟨by decide, Word.ofInt?_eq_none_iff.mpr (.inl ?_)⟩
  show (-1 : Int) * 2 ^ 64 < -2 ^ 63
  norm_num

end Alu

end UrclDebugger
