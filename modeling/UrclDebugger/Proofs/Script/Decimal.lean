import UrclDebugger.Numeral

/-!
# Decimal texts

The decimal text of a number is read back as the number, so different words have different texts
and a decimal written into an expression means the number it was written for.
-/

namespace UrclDebugger

section Digits

/-- Different numbers have different digits. -/
theorem toDigits_inj {a b : Nat} (same : Nat.toDigits 10 a = Nat.toDigits 10 b) : a = b :=
  calc
    a = Nat.ofDigitChars 10 (Nat.toDigits 10 a) 0 := Nat.ofDigitChars_ten_toDigits.symm
    _ = Nat.ofDigitChars 10 (Nat.toDigits 10 b) 0 := by rw [same]
    _ = b := Nat.ofDigitChars_ten_toDigits

theorem isDigit_of_mem_toDigits {number : Nat} {c : Char} (written : c ∈ Nat.toDigits 10 number) :
    c.isDigit = true :=
  Nat.isDigit_of_mem_toDigits (by omega) (by omega) written

end Digits

namespace Word

/-- How many words are positions: those that are not negative. -/
def positions : Nat := 9223372036854775808

/-- A position is the number that its word has. -/
theorem toInt_position {position : Nat} (fits : position < positions) :
    (Int64.ofNat position).toInt = position :=
  Int64.toInt_ofNat_of_lt fits

/-- The characters of a word: a minus sign for a negative one, then digits. -/
theorem toList_toDecimal (word : Word) :
    word.toDecimal.toList =
      if 0 ≤ word.toInt then Nat.toDigits 10 word.toInt.toNat
      else '-' :: Nat.toDigits 10 (-word.toInt).toNat := by
  unfold toDecimal
  rw [Int.toString_eq_repr, Int.repr_eq_if]
  split
  · rw [Nat.repr_eq_ofList_toDigits, String.toList_ofList]
  · rw [Nat.repr_eq_ofList_toDigits, String.toList_append]
    simp only [String.toList_ofList]
    rfl

/-- A decimal holds digits and a sign at most. -/
theorem isDigit_or_sign_of_mem_toDecimal {word : Word} {c : Char}
    (member : c ∈ word.toDecimal.toList) : c.isDigit = true ∨ c = '-' := by
  rw [toList_toDecimal] at member
  split at member
  · exact .inl (isDigit_of_mem_toDigits member)
  · rcases List.mem_cons.mp member with sign | digit
    · exact .inr sign
    · exact .inl (isDigit_of_mem_toDigits digit)

/-- A decimal holds no letter. -/
theorem letter_notMem_toDecimal (word : Word) : 'e' ∉ word.toDecimal.toList := fun member =>
  absurd (isDigit_or_sign_of_mem_toDecimal member) (by decide)

/-- Different words have different decimals. The sign decides first; below it are digits. -/
theorem toDecimal_inj {a b : Word} : a.toDecimal = b.toDecimal ↔ a = b := by
  refine ⟨fun same => ?_, congrArg toDecimal⟩
  have unsigned (number : Nat) : '-' ∉ Nat.toDigits 10 number := fun written =>
    absurd (isDigit_of_mem_toDigits written) (by decide)
  have lists : a.toDecimal.toList = b.toDecimal.toList := congrArg String.toList same
  rw [toList_toDecimal, toList_toDecimal] at lists
  rw [← Int64.toInt_inj]
  by_cases naturalA : 0 ≤ a.toInt <;> by_cases naturalB : 0 ≤ b.toInt
  · rw [if_pos naturalA, if_pos naturalB] at lists
    have := toDigits_inj lists
    omega
  · rw [if_pos naturalA, if_neg naturalB] at lists
    exact absurd (lists ▸ List.mem_cons_self) (unsigned a.toInt.toNat)
  · rw [if_neg naturalA, if_pos naturalB] at lists
    exact absurd (lists ▸ List.mem_cons_self) (unsigned b.toInt.toNat)
  · rw [if_neg naturalA, if_neg naturalB] at lists
    have := toDigits_inj (List.tail_eq_of_cons_eq lists)
    omega

end Word

namespace Numeral

/-- A decimal digit is worth its distance from zero. -/
theorem digitOf?_of_isDigit {c : Char} (digit : c.isDigit = true) :
    digitOf? 10 c = some (c.toNat - '0'.toNat) := by
  have bounds : 48 ≤ c.toNat ∧ c.toNat ≤ 57 := by
    simpa [Char.isDigit, UInt32.le_iff_toNat_le] using digit
  have inside : '0' ≤ c ∧ c ≤ '9' := bounds
  have below : c.toNat - '0'.toNat < 10 := by
    simp only [Char.reduceToNat]
    omega
  rw [digitOf?, digitValue?, if_pos inside, Option.filter_some, if_pos (decide_eq_true below)]

theorem accumulate?_digits (digits : List Char) (decimal : ∀ c ∈ digits, c.isDigit = true)
    (value : Nat) : accumulate? 10 value digits = some (Nat.ofDigitChars 10 digits value) := by
  induction digits generalizing value with
  | nil => rfl
  | cons c rest ih =>
    have here := digitOf?_of_isDigit (decimal c List.mem_cons_self)
    have shifted : value * 10 = 10 * value := Nat.mul_comm value 10
    simp only [accumulate?, here, Nat.ofDigitChars_cons, shifted]
    exact ih (fun d listed => decimal d (List.mem_cons_of_mem c listed)) _

/-- No digit names a base. -/
theorem baseOf?_of_isDigit {c : Char} (digit : c.isDigit = true) : baseOf? c = none := by
  have bounds : 48 ≤ c.toNat ∧ c.toNat ≤ 57 := by
    simpa [Char.isDigit, UInt32.le_iff_toNat_le] using digit
  have small : c.toLower = c := by
    unfold Char.toLower
    rw [dif_neg]
    intro capital
    have : 65 ≤ c.toNat := capital.1
    omega
  unfold baseOf?
  rw [small]
  split <;> first | rfl | contradiction

/-- Digits alone are a decimal magnitude, also behind a leading zero. -/
theorem parse?_digits {digits : List Char} (decimal : ∀ c ∈ digits, c.isDigit = true)
    (present : digits ≠ []) :
    parse? digits = Word.ofInt? (Nat.ofDigitChars 10 digits 0) := by
  have read : natural? 10 digits = some (Nat.ofDigitChars 10 digits 0) := by
    cases digits with
    | nil => exact absurd rfl present
    | cons c rest => exact accumulate?_digits _ decimal 0
  have unsigned : ∀ rest, digits ≠ '-' :: rest := by
    rintro rest rfl
    exact absurd (decimal '-' List.mem_cons_self) (by decide)
  unfold parse?
  split
  · exact absurd rfl (unsigned _)
  · unfold magnitude?
    split
    · rename_i _ mark others _
      have unmarked := baseOf?_of_isDigit
        (decimal mark (List.mem_cons_of_mem _ List.mem_cons_self))
      rw [unmarked]
      dsimp only
      rw [read, Option.bind_some]
    · rw [read, Option.bind_some]

/-- A number that fits a word is read back from its decimal. -/
theorem parse?_toDigits {number : Nat} (fits : number < Word.positions) :
    parse? (Nat.toDigits 10 number) = some (Int64.ofNat number) := by
  have decimal : ∀ c ∈ Nat.toDigits 10 number, c.isDigit = true :=
    fun _ => isDigit_of_mem_toDigits
  have read := parse?_digits decimal Nat.toDigits_ne_nil
  rw [Nat.ofDigitChars_ten_toDigits] at read
  rw [read, Word.ofInt?_eq_some_iff]
  exact Word.toInt_position fits

end Numeral

end UrclDebugger
