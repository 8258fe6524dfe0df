import Mathlib.Data.Rat.Floor
import UrclDebugger.Proofs.Machine.Address

/-!
# Division and remainder

The division of words truncates, and two separate corrections turn a truncated quotient and a
truncated remainder into those of a division that rounds to the floor. Both corrections are made in
the same cases, so the two results belong to one division (`division_floors`), and what they compute
without a check never leaves the range of words.
-/

namespace UrclDebugger

namespace Word

section Truncated

variable {a b : Word}

/-- The least word divided by `-1` is the only quotient that no word can hold. -/
theorem toInt_div_of_fits (fits : ¬ (a = Int64.minValue ∧ b = -1)) :
    (a / b).toInt = a.toInt.tdiv b.toInt := by
  by_cases least : a = Int64.minValue
  · exact Int64.toInt_div_of_ne_right a b fun minusOne => fits ⟨least, minusOne⟩
  · exact Int64.toInt_div_of_ne_left a b least

theorem mod_eq_zero_iff : a % b = 0 ↔ b.toInt ∣ a.toInt := by
  rw [← Int64.toInt_inj, Int64.toInt_mod, Int64.toInt_zero, Int.dvd_iff_tmod_eq_zero]

/-- A truncated remainder has the sign of the dividend. -/
theorem mod_lt_zero_iff (inexact : a % b ≠ 0) : a % b < 0 ↔ a < 0 := by
  have sign := Int.sign_tmod a.toInt b.toInt
  rw [if_neg (mt mod_eq_zero_iff.mpr inexact)] at sign
  rw [lt_zero_iff, lt_zero_iff, Int64.toInt_mod, ← Int.sign_eq_neg_one_iff_neg, sign,
    Int.sign_eq_neg_one_iff_neg]

/-- An inexact quotient is nearer to zero than the dividend, so it is not the least word. -/
theorem div_ne_minValue (fits : ¬ (a = Int64.minValue ∧ b = -1)) (inexact : a % b ≠ 0) :
    a / b ≠ Int64.minValue := by
  intro least
  have sizes : a.toInt.natAbs / b.toInt.natAbs = 2 ^ 63 := by
    show a.toInt.natAbs.div b.toInt.natAbs = 2 ^ 63
    rw [← Int.natAbs_tdiv, ← toInt_div_of_fits fits, least, Int64.toInt_minValue]
    rfl
  have bound : a.toInt.natAbs ≤ 2 ^ 63 := by
    have below := Int64.toInt_lt a
    have above := Int64.le_toInt a
    omega
  have notUnit : b.toInt.natAbs ≠ 1 := fun unit =>
    inexact (mod_eq_zero_iff.mpr (Int.natAbs_dvd.mp (unit ▸ one_dvd a.toInt)))
  have notZero : b.toInt.natAbs ≠ 0 := by
    intro zero
    rw [zero, Nat.div_zero] at sizes
    omega
  have positive : 0 < a.toInt.natAbs := by
    rw [Nat.pos_iff_ne_zero]
    intro zero
    rw [zero, Nat.zero_div] at sizes
    omega
  have smaller := Nat.div_lt_self positive (show 1 < b.toInt.natAbs by omega)
  omega

/-- A quotient is corrected if the division is inexact and the signs of its operands differ. -/
theorem corrects_quotient_iff :
    (a % b ≠ 0 ∧ decide (a < 0) ≠ decide (b < 0)) ↔
      ¬ b.toInt ∣ a.toInt ∧ (a.toInt < 0 ↔ 0 ≤ b.toInt) := by
  rw [Ne, mod_eq_zero_iff, Ne, decide_eq_decide, lt_zero_iff, lt_zero_iff]
  refine and_congr_right fun _ => ?_
  omega

/-- A remainder is corrected in the same cases, though its own sign is looked at. -/
theorem corrects_remainder_iff :
    (a % b ≠ 0 ∧ decide (a % b < 0) ≠ decide (b < 0)) ↔
      ¬ b.toInt ∣ a.toInt ∧ (a.toInt < 0 ↔ 0 ≤ b.toInt) := by
  rw [← corrects_quotient_iff]
  refine and_congr_right fun inexact => ?_
  rw [decide_eq_decide.mpr (mod_lt_zero_iff inexact)]

/-- Words of different signs can be added. -/
theorem toInt_add_of_mixed (mixed : decide (a < 0) ≠ decide (b < 0)) :
    (a + b).toInt = a.toInt + b.toInt := by
  rw [Ne, decide_eq_decide, lt_zero_iff, lt_zero_iff] at mixed
  have leftBelow := Int64.toInt_lt a
  have leftAbove := Int64.le_toInt a
  have rightBelow := Int64.toInt_lt b
  have rightAbove := Int64.le_toInt b
  rw [Int64.toInt_add, Int.bmod_eq_of_le (by omega) (by omega)]

end Truncated

section Floored

variable {a b : Word} (notZero : b ≠ 0)

include notZero

theorem toInt_ne_zero : b.toInt ≠ 0 := fun zero =>
  notZero (Int64.toInt_inj.mp (zero.trans Int64.toInt_zero.symm))

theorem toInt_floorQuotient (fits : ¬ (a = Int64.minValue ∧ b = -1)) :
    (floorQuotient a b).toInt = a.toInt.fdiv b.toInt := by
  have divisor := toInt_ne_zero notZero
  rw [Int.fdiv_eq_tdiv, ← toInt_div_of_fits fits, floorQuotient]
  by_cases corrected : a % b ≠ 0 ∧ decide (a < 0) ≠ decide (b < 0)
  · rw [if_pos corrected, toInt_sub_one (div_ne_minValue fits corrected.1)]
    obtain ⟨inexact, mixed⟩ := corrects_quotient_iff.mp corrected
    rw [if_neg inexact]
    split <;> split
    · omega
    · omega
    · rw [Int.sign_eq_one_of_pos (by omega)]
    · omega
  · rw [if_neg corrected]
    rw [corrects_quotient_iff] at corrected
    split
    · omega
    · split <;> split
      · omega
      · omega
      · omega
      · rw [Int.sign_eq_neg_one_of_neg (by omega)]
        omega

theorem toInt_floorRemainder : (floorRemainder a b).toInt = a.toInt.fmod b.toInt := by
  have divisor := toInt_ne_zero notZero
  rw [Int.fmod_eq_tmod, ← Int64.toInt_mod, floorRemainder]
  by_cases corrected : a % b ≠ 0 ∧ decide (a % b < 0) ≠ decide (b < 0)
  · rw [if_pos corrected, toInt_add_of_mixed corrected.2]
    obtain ⟨inexact, mixed⟩ := corrects_remainder_iff.mp corrected
    rw [if_neg inexact]
    split <;> split <;> omega
  · rw [if_neg corrected]
    rw [corrects_remainder_iff] at corrected
    split
    · omega
    · split <;> split <;> omega

end Floored

/-- Rounding an exact quotient to the floor is the flooring division of integers. -/
theorem floor_div_eq_fdiv (dividend divisor : Int) :
    ⌊(dividend : ℚ) / divisor⌋ = dividend.fdiv divisor := by
  obtain ⟨size, rfl | rfl⟩ := divisor.eq_nat_or_neg
  · rw [Int.cast_natCast, Rat.floor_intCast_div_natCast, Int.fdiv_eq_ediv_of_nonneg _ (by omega)]
  · have flipped : (dividend : ℚ) / ((-(size : Int) : Int) : ℚ) =
        ((-dividend : Int) : ℚ) / (size : ℚ) := by
      push_cast
      rw [div_neg, neg_div]
    rw [flipped, Rat.floor_intCast_div_natCast, ← Int.neg_fdiv_neg, Int.neg_neg,
      Int.fdiv_eq_ediv_of_nonneg _ (by omega)]

theorem fmod_between {dividend divisor : Int} (notZero : divisor ≠ 0) :
    0 ≤ dividend.fmod divisor ∧ dividend.fmod divisor < divisor ∨
      divisor < dividend.fmod divisor ∧ dividend.fmod divisor ≤ 0 := by
  rcases Int.lt_or_gt_of_ne notZero with negative | positive
  · have flipped := Int.neg_fmod_neg dividend divisor
    have least := Int.fmod_nonneg_of_pos (-dividend) (b := -divisor) (by omega)
    have greatest := Int.fmod_lt_of_pos (-dividend) (b := -divisor) (by omega)
    omega
  · exact .inl ⟨Int.fmod_nonneg_of_pos dividend positive, Int.fmod_lt_of_pos dividend positive⟩

end Word

namespace Alu

/-- A quotient and a remainder of a division that rounds to the floor. -/
structure Floored (a b quotient remainder : Word) : Prop where
  /-- The two recompose to the dividend over the integers. -/
  exact : a.toInt = quotient.toInt * b.toInt + remainder.toInt
  /-- The remainder lies between zero and the divisor, which it does not reach. -/
  between : 0 ≤ remainder ∧ remainder < b ∨ b < remainder ∧ remainder ≤ 0
  floor : quotient.toInt = ⌊(a.toInt : ℚ) / b.toInt⌋

/-- The operations that a division performs without a check stay in the range of words: truncated
quotient and remainder are exact, and so is either correction where it is made. -/
structure InRange (a b : Word) : Prop where
  quotient : Word.ofInt? (a.toInt.tdiv b.toInt) = some (a / b)
  remainder : Word.ofInt? (a.toInt.tmod b.toInt) = some (a % b)
  lowered : a % b ≠ 0 ∧ decide (a < 0) ≠ decide (b < 0) → (a / b).sub? 1 = some (a / b - 1)
  raised : a % b ≠ 0 ∧ decide (a % b < 0) ≠ decide (b < 0) → (a % b).add? b = some (a % b + b)

section

variable {a b : Word}

theorem floored (notZero : b ≠ 0) (fits : ¬ (a = Int64.minValue ∧ b = -1)) :
    Floored a b (Word.floorQuotient a b) (Word.floorRemainder a b) where
  exact := by
    rw [Word.toInt_floorQuotient notZero fits, Word.toInt_floorRemainder notZero,
      Int.fdiv_mul_add_fmod]
  between := by
    rw [Int64.le_iff_toInt_le, Int64.lt_iff_toInt_lt, Int64.lt_iff_toInt_lt, Int64.le_iff_toInt_le,
      Int64.toInt_zero, Word.toInt_floorRemainder notZero]
    exact Word.fmod_between (Word.toInt_ne_zero notZero)
  floor := by rw [Word.toInt_floorQuotient notZero fits, Word.floor_div_eq_fdiv]

theorem inRange (fits : ¬ (a = Int64.minValue ∧ b = -1)) : InRange a b where
  quotient := Word.ofInt?_eq_some_iff.mpr (Word.toInt_div_of_fits fits)
  remainder := Word.ofInt?_eq_some_iff.mpr (Int64.toInt_mod a b)
  lowered := fun ⟨inexact, _⟩ => by
    rw [Word.sub?_one, if_neg (Word.div_ne_minValue fits inexact)]
  raised := fun ⟨_, mixed⟩ => Word.ofInt?_eq_some_iff.mpr (Word.toInt_add_of_mixed mixed)

end

/-- Division rounds to the floor and the remainder belongs to it. For a zero divisor neither is
given, nor is either for the one quotient that no word can hold; in all other cases both are, and
nothing that is computed on the way overflows. -/
theorem division_floors (a b : Word) :
    if b = 0 then
      Binary.div.apply a b = .error .divisionByZero ∧
        Binary.mod.apply a b = .error .divisionByZero
    else if a = Int64.minValue ∧ b = -1 then
      Binary.div.apply a b = .error .overflow ∧ Binary.mod.apply a b = .error .overflow
    else
      ∃ quotient remainder, Binary.div.apply a b = .ok quotient ∧
        Binary.mod.apply a b = .ok remainder ∧ Floored a b quotient remainder ∧ InRange a b := by
  have divides : Binary.div.apply a b = (checkDivision a b).map fun _ => Word.floorQuotient a b :=
    rfl
  have remains : Binary.mod.apply a b = (checkDivision a b).map fun _ => Word.floorRemainder a b :=
    rfl
  rw [divides, remains, checkDivision]
  split
  · exact ⟨rfl, rfl⟩
  · rename_i notZero
    split
    · exact ⟨rfl, rfl⟩
    · rename_i fits
      exact ⟨_, _, rfl, rfl, floored notZero fits, inRange fits⟩

/-- Of a negative divisor the quotient is rounded down as well, and the remainder is negative. -/
example : Binary.div.apply 7 (-2) = .ok (-4) ∧ Binary.mod.apply 7 (-2) = .ok (-1) := by decide

end Alu

end UrclDebugger
