import Mathlib.Data.Nat.Digits.Defs
import Mathlib.Tactic.Ring
import UrclDebugger.Machine.Execute
import UrclDebugger.Proofs.Script.Decimal

/-!
# What integer literals denote

A literal denotes the number that its digits make in their base, negated behind a minus sign. What
is read is what is denoted, with two exceptions (`literal_exact`). The sign is applied to a
magnitude that is a word already, so the least word, whose magnitude is none, has a decimal that can
not be read back. And the digits behind a base mark may have a sign of their own, which is read
although no literal is written like that.
-/

namespace UrclDebugger

namespace Numeral

/-- The characters are one or more digits of the base, the most significant one first and letters
in either case, and make the number. -/
def Digits (base : Nat) (written : List Char) (number : Nat) : Prop :=
  ∃ values : List Nat, values ≠ [] ∧ (∀ value ∈ values, value < base) ∧
    written.map Char.toLower = values.map Nat.digitChar ∧
      number = Nat.ofDigits base values.reverse

/-- The letters that mark a base. -/
def marks : List (Char × Nat) := [('x', 16), ('b', 2), ('o', 8)]

/-- The text is a magnitude: decimal digits, or a zero, a mark in either case and digits of the
base that it marks. -/
inductive Magnitude : List Char → Int → Prop where
  | decimal {digits : List Char} {number : Nat} (written : Digits 10 digits number) :
      Magnitude digits number
  | based {mark : Char} {base : Nat} {digits : List Char} {number : Nat}
      (marked : (mark.toLower, base) ∈ marks) (written : Digits base digits number) :
      Magnitude ('0' :: mark :: digits) number

/-- Digits behind a sign. -/
inductive SignedDigits (base : Nat) : List Char → Int → Prop where
  | plus {digits : List Char} {number : Nat} (written : Digits base digits number) :
      SignedDigits base ('+' :: digits) number
  | minus {digits : List Char} {number : Nat} (written : Digits base digits number) :
      SignedDigits base ('-' :: digits) (-number)

/-- The text has a sign between a base mark and digits of the base. -/
inductive SignWithin : List Char → Int → Prop where
  | based {mark : Char} {base : Nat} {digits : List Char} {number : Int}
      (marked : (mark.toLower, base) ∈ marks) (written : SignedDigits base digits number) :
      SignWithin ('0' :: mark :: digits) number

/-- The text is a magnitude of the given form, or a minus sign and one that is negated. -/
inductive Signed (magnitude : List Char → Int → Prop) : List Char → Int → Prop where
  | plain {text : List Char} {number : Int} (written : magnitude text number) :
      Signed magnitude text number
  | negated {text : List Char} {number : Int} (written : magnitude text number) :
      Signed magnitude ('-' :: text) (-number)

/-- The text is a literal of the number. -/
abbrev Literal : List Char → Int → Prop := Signed Magnitude

section Digits

variable {base : Nat} {written : List Char} {number : Nat}

/-- Characters of more than one byte are no digits, and they have no other case. -/
theorem digitValue?_eq_some_iff {c : Char} {value : Nat} :
    digitValue? c = some value ↔ value < 16 ∧ c.toLower = Nat.digitChar value := by
  have table : ∀ code < 128, (∀ found ∈ digitValue? (Char.ofNat code), found < 16) ∧
      ∀ digit < 16, digitValue? (Char.ofNat code) = some digit ↔
        (Char.ofNat code).toLower = Nat.digitChar digit := by decide +kernel
  by_cases small : c.toNat < 128
  · have row := table c.toNat small
    rw [Char.ofNat_toNat] at row
    constructor
    · intro found
      have below := row.1 value found
      exact ⟨below, (row.2 value below).mp found⟩
    · rintro ⟨below, lower⟩
      exact (row.2 value below).mpr lower
  · have uncased : c.toLower = c := by
      unfold Char.toLower
      rw [dif_neg]
      intro capital
      have : c.toNat ≤ 90 := capital.2
      omega
    have bounds : ∀ digit < 16, (Nat.digitChar digit).toNat < 128 := by decide
    have above (limit : Char) (inside : limit.toNat < 128) : ¬ c ≤ limit := by
      intro below
      have : c.toNat ≤ limit.toNat := below
      omega
    have none : digitValue? c = none := by
      unfold digitValue?
      rw [if_neg fun digit => above '9' (by decide) digit.2,
        if_neg fun letter => above 'f' (by decide) letter.2,
        if_neg fun capital => above 'F' (by decide) capital.2]
    rw [none, uncased]
    constructor
    · exact nofun
    · rintro ⟨below, same⟩
      have := bounds value below
      rw [← same] at this
      contradiction

theorem digitOf?_eq_some_iff (small : base ≤ 16) {c : Char} {value : Nat} :
    digitOf? base c = some value ↔ value < base ∧ c.toLower = Nat.digitChar value := by
  rw [digitOf?, Option.filter_eq_some_iff, digitValue?_eq_some_iff, decide_eq_true_eq]
  constructor
  · rintro ⟨⟨-, lower⟩, below⟩
    exact ⟨below, lower⟩
  · rintro ⟨below, lower⟩
    exact ⟨⟨Nat.lt_of_lt_of_le below small, lower⟩, below⟩

/-- A number and the digit behind it are one digit of the number that they make together. -/
theorem ofDigits_append_pair (low : List Nat) (digit number : Nat) :
    Nat.ofDigits base (low ++ [digit, number]) =
      Nat.ofDigits base (low ++ [number * base + digit]) := by
  simp only [Nat.ofDigits_append, Nat.ofDigits_cons, Nat.ofDigits_nil, Nat.mul_zero, Nat.add_zero]
  ring

theorem accumulate?_eq_some_iff (small : base ≤ 16) {start : Nat} :
    accumulate? base start written = some number ↔
      ∃ values : List Nat, (∀ value ∈ values, value < base) ∧
        written.map Char.toLower = values.map Nat.digitChar ∧
          number = Nat.ofDigits base (values.reverse ++ [start]) := by
  induction written generalizing start with
  | nil =>
    constructor
    · intro same
      have := Option.some.inj same
      exact ⟨[], nofun, rfl, by simp [this]⟩
    · rintro ⟨values, -, same, total⟩
      have : values = [] := by simpa using same
      rw [accumulate?, total, this]
      simp
  | cons c rest ih =>
    rw [accumulate?]
    constructor
    · intro found
      split at found
      · rename_i digit here
        have first := (digitOf?_eq_some_iff small).mp here
        obtain ⟨values, below, same, total⟩ := ih.mp found
        refine ⟨digit :: values, List.forall_mem_cons.mpr ⟨first.1, below⟩, ?_, ?_⟩
        · rw [List.map_cons, List.map_cons, first.2, same]
        · rw [total, List.reverse_cons, List.append_assoc]
          exact (ofDigits_append_pair _ _ _).symm
      · contradiction
    · rintro ⟨values, below, same, total⟩
      cases values with
      | nil => contradiction
      | cons digit values =>
        have parts := List.forall_mem_cons.mp below
        have chars := List.cons.inj same
        rw [(digitOf?_eq_some_iff small).mpr ⟨parts.1, chars.1⟩]
        apply ih.mpr
        refine ⟨values, parts.2, chars.2, ?_⟩
        rw [total, List.reverse_cons, List.append_assoc]
        exact ofDigits_append_pair _ _ _

theorem natural?_eq_some_iff (small : base ≤ 16) :
    natural? base written = some number ↔ Digits base written number := by
  cases written with
  | nil =>
    constructor
    · exact nofun
    · rintro ⟨values, present, -, same, -⟩
      exact absurd (List.map_eq_nil_iff.mp same.symm) present
  | cons c rest =>
    show accumulate? base 0 (c :: rest) = some number ↔ _
    rw [accumulate?_eq_some_iff small]
    constructor
    · rintro ⟨values, below, same, total⟩
      have present : values ≠ [] := by
        rintro rfl
        contradiction
      rw [Nat.ofDigits_append_zero] at total
      exact ⟨values, present, below, same, total⟩
    · rintro ⟨values, -, below, same, total⟩
      rw [← Nat.ofDigits_append_zero] at total
      exact ⟨values, below, same, total⟩

theorem Digits.of_mem (digits : Digits base written number) {c : Char} (member : c ∈ written) :
    ∃ value < base, c.toLower = Nat.digitChar value := by
  obtain ⟨values, -, below, same, -⟩ := digits
  have listed : c.toLower ∈ values.map Nat.digitChar := same ▸ List.mem_map_of_mem member
  obtain ⟨value, inside, here⟩ := List.mem_map.mp listed
  exact ⟨value, below value inside, here.symm⟩

end Digits

section Magnitude

variable {base : Nat} {word : Word}

theorem baseOf?_eq_some_iff {mark : Char} :
    baseOf? mark = some base ↔ (mark.toLower, base) ∈ marks := by
  unfold baseOf?
  split
  · rename_i letter
    rw [letter]
    simp [marks, eq_comm]
  · rename_i letter
    rw [letter]
    simp [marks, eq_comm]
  · rename_i letter
    rw [letter]
    simp [marks, eq_comm]
  · rename_i other
    simp_all [marks]

theorem le_sixteen_of_mem_marks {letter : Char} (marked : (letter, base) ∈ marks) :
    base ≤ 16 := by
  have bounds : ∀ entry ∈ marks, entry.2 ≤ 16 := by decide
  exact bounds _ marked

/-- A mark is no decimal digit. -/
theorem not_decimal_of_marked {mark : Char} {digits : List Char} {number : Nat}
    (marked : (mark.toLower, base) ∈ marks) : ¬ Digits 10 ('0' :: mark :: digits) number := by
  intro decimal
  have letters : ∀ entry ∈ marks, ∀ value < 10, entry.1 ≠ Nat.digitChar value := by decide
  obtain ⟨value, below, lower⟩ := decimal.of_mem (List.mem_cons_of_mem _ List.mem_cons_self)
  exact letters _ marked value below lower

/-- A sign is no digit. -/
theorem not_digits_of_sign (small : base ≤ 16) {sign : Char} (isSign : sign = '+' ∨ sign = '-')
    {digits : List Char} {number : Nat} : ¬ Digits base (sign :: digits) number := by
  intro written
  have signs : ∀ value < 16, Nat.digitChar value ≠ '+' ∧ Nat.digitChar value ≠ '-' := by decide
  obtain ⟨value, below, lower⟩ := written.of_mem List.mem_cons_self
  have different := signs value (Nat.lt_of_lt_of_le below small)
  rcases isSign with rfl | rfl
  · exact different.1 lower.symm
  · exact different.2 lower.symm

theorem natural?_bind_eq_some_iff (small : base ≤ 16) {digits : List Char} (sign : Nat → Int) :
    ((natural? base digits).bind fun number => Word.ofInt? (sign number)) = some word ↔
      ∃ number, Digits base digits number ∧ word.toInt = sign number := by
  simp only [Option.bind_eq_some_iff, natural?_eq_some_iff small, Word.ofInt?_eq_some_iff]

section Forms

variable {mark : Char} {digits text : List Char} {value : Int}

theorem signedDigits_plus_iff :
    SignedDigits base ('+' :: digits) value ↔
      ∃ number : Nat, Digits base digits number ∧ value = number := by
  constructor
  · intro signed
    cases signed with
    | plus written => exact ⟨_, written, rfl⟩
  · rintro ⟨number, written, rfl⟩
    exact .plus written

theorem signedDigits_minus_iff :
    SignedDigits base ('-' :: digits) value ↔
      ∃ number : Nat, Digits base digits number ∧ value = -number := by
  constructor
  · intro signed
    cases signed with
    | minus written => exact ⟨_, written, rfl⟩
  · rintro ⟨number, written, rfl⟩
    exact .minus written

/-- Behind a mark stand digits of its base. -/
theorem magnitude_marked_iff (marks : baseOf? mark = some base) :
    Magnitude ('0' :: mark :: digits) value ↔
      ∃ number : Nat, Digits base digits number ∧ value = number := by
  have marked := baseOf?_eq_some_iff.mp marks
  constructor
  · intro magnitude
    cases magnitude with
    | decimal written => exact absurd written (not_decimal_of_marked marked)
    | based other written =>
      have same := (baseOf?_eq_some_iff.mpr other).symm.trans marks
      obtain rfl := Option.some.inj same
      exact ⟨_, written, rfl⟩
  · rintro ⟨number, written, rfl⟩
    exact .based marked written

theorem signWithin_marked_iff (marks : baseOf? mark = some base) :
    SignWithin ('0' :: mark :: digits) value ↔ SignedDigits base digits value := by
  constructor
  · intro within
    cases within with
    | based other written =>
      have same := (baseOf?_eq_some_iff.mpr other).symm.trans marks
      obtain rfl := Option.some.inj same
      exact written
  · exact .based (baseOf?_eq_some_iff.mp marks)

/-- Without a mark behind a zero there are decimal digits. -/
theorem magnitude_unmarked_iff
    (unmarked : ∀ mark digits, text = '0' :: mark :: digits → baseOf? mark = none) :
    Magnitude text value ∨ SignWithin text value ↔
      ∃ number : Nat, Digits 10 text number ∧ value = number := by
  have noMark {base : Nat} {mark : Char} {digits : List Char}
      (marked : (mark.toLower, base) ∈ marks) : text ≠ '0' :: mark :: digits := by
    intro same
    have := unmarked mark digits same
    rw [baseOf?_eq_some_iff.mpr marked] at this
    contradiction
  constructor
  · rintro (magnitude | within)
    · cases magnitude with
      | decimal written => exact ⟨_, written, rfl⟩
      | based marked _ => exact absurd rfl (noMark marked)
    · cases within with
      | based marked _ => exact absurd rfl (noMark marked)
  · rintro ⟨number, written, rfl⟩
    exact .inl (.decimal written)

end Forms

theorem signed?_eq_some_iff (small : base ≤ 16) {digits : List Char} :
    signed? base digits = some word ↔
      (∃ number : Nat, Digits base digits number ∧ word.toInt = number) ∨
        SignedDigits base digits word.toInt := by
  unfold signed?
  split
  · rw [natural?_bind_eq_some_iff small, signedDigits_plus_iff, or_iff_right]
    rintro ⟨number, written, -⟩
    exact not_digits_of_sign small (.inl rfl) written
  · rw [natural?_bind_eq_some_iff small fun number => -number, signedDigits_minus_iff, or_iff_right]
    rintro ⟨number, written, -⟩
    exact not_digits_of_sign small (.inr rfl) written
  · rename_i noPlus noMinus
    rw [natural?_bind_eq_some_iff small, or_iff_left]
    generalize word.toInt = value
    rintro (written | written)
    · exact noPlus _ rfl
    · exact noMinus _ rfl

theorem magnitude?_eq_some_iff {text : List Char} :
    magnitude? text = some word ↔ Magnitude text word.toInt ∨ SignWithin text word.toInt := by
  have decimal : ((natural? 10 text).bind fun number => Word.ofInt? number) = some word ↔
      ∃ number : Nat, Digits 10 text number ∧ word.toInt = number :=
    natural?_bind_eq_some_iff (by decide) fun number => number
  unfold magnitude?
  split
  · rename_i mark digits
    cases here : baseOf? mark with
    | some base =>
      have small := le_sixteen_of_mem_marks (baseOf?_eq_some_iff.mp here)
      dsimp only
      rw [signed?_eq_some_iff small, magnitude_marked_iff here, signWithin_marked_iff here]
    | none =>
      dsimp only
      rw [magnitude_unmarked_iff, decimal]
      intro other rest same
      rw [← (List.cons.inj (List.cons.inj same).2).1]
      exact here
  · rename_i other
    rw [magnitude_unmarked_iff, decimal]
    intro mark digits same
    exact (other mark digits same).elim

end Magnitude

section Sign

variable {text : List Char} {value : Int}

theorem Magnitude.nonneg (magnitude : Magnitude text value) : 0 ≤ value := by
  cases magnitude with
  | decimal => exact Int.natCast_nonneg _
  | based => exact Int.natCast_nonneg _

/-- No magnitude starts with a minus sign. -/
theorem not_magnitude_minus :
    ¬ (Magnitude ('-' :: text) value ∨ SignWithin ('-' :: text) value) := by
  rw [magnitude_unmarked_iff fun mark digits same => absurd (List.cons.inj same).1 (by decide)]
  rintro ⟨number, written, -⟩
  exact not_digits_of_sign (by decide) (.inr rfl) written

variable {magnitude : List Char → Int → Prop}

theorem signed_iff_of_unsigned (unsigned : ∀ rest, text ≠ '-' :: rest) :
    Signed magnitude text value ↔ magnitude text value := by
  constructor
  · intro signed
    cases signed with
    | plain written => exact written
    | negated => exact absurd rfl (unsigned _)
  · exact .plain

theorem signed_minus_iff (plain : ¬ magnitude ('-' :: text) value) :
    Signed magnitude ('-' :: text) value ↔ magnitude text (-value) := by
  constructor
  · intro signed
    cases signed with
    | plain written => exact absurd written plain
    | negated written => rwa [Int.neg_neg]
  · intro written
    have negated := Signed.negated written
    rwa [Int.neg_neg] at negated

end Sign

/-- Of a word other than the least one the negation is exact. -/
theorem toInt_neg_of_ne {word : Word} (notLeast : word ≠ Int64.minValue) :
    (-word).toInt = -word.toInt := by
  have below := Int64.toInt_lt word
  have above := Int64.le_toInt word
  have different : word.toInt ≠ -2 ^ 63 := fun same =>
    notLeast (Int64.toInt_inj.mp (same.trans Int64.toInt_minValue.symm))
  rw [Int64.toInt_neg, Int.bmod_eq_of_le (by omega) (by omega)]

theorem neg_ne_minValue {word : Word} (notLeast : word ≠ Int64.minValue) :
    -word ≠ Int64.minValue := by
  intro least
  have exact := toInt_neg_of_ne notLeast
  have below := Int64.toInt_lt word
  rw [least, Int64.toInt_minValue] at exact
  omega

/-- What is read is a magnitude, plain or negated; the least word is read only from a magnitude
that is negative itself. -/
theorem parse?_eq_some_iff {text : List Char} {word : Word}
    (safe : ∀ rest, text = '-' :: rest → ¬ SignWithin rest Int64.minValue.toInt) :
    parse? text = some word ↔
      (Literal text word.toInt ∨ Signed SignWithin text word.toInt) ∧
        (word = Int64.minValue → SignWithin text word.toInt) := by
  have leastNegative : Int64.minValue.toInt < 0 := by decide
  unfold parse?
  split
  · rename_i rest
    have noPlain := @not_magnitude_minus rest word.toInt
    rw [not_or] at noPlain
    rw [Option.map_eq_some_iff, Literal, signed_minus_iff noPlain.1, signed_minus_iff noPlain.2]
    constructor
    · rintro ⟨positive, read, rfl⟩
      have written := magnitude?_eq_some_iff.mp read
      have notLeast : positive ≠ Int64.minValue := by
        rintro rfl
        rcases written with magnitude | within
        · exact absurd magnitude.nonneg (Int.not_le.mpr leastNegative)
        · exact safe rest rfl within
      rw [toInt_neg_of_ne notLeast, Int.neg_neg]
      exact ⟨written, fun least => absurd least (neg_ne_minValue notLeast)⟩
    · rintro ⟨written, least⟩
      have notLeast : word ≠ Int64.minValue := fun same => noPlain.2 (least same)
      refine ⟨-word, magnitude?_eq_some_iff.mpr ?_, Int64.neg_neg⟩
      rwa [toInt_neg_of_ne notLeast]
  · rename_i unsigned
    have noMinus : ∀ rest, text ≠ '-' :: rest := fun rest same => unsigned rest same
    rw [magnitude?_eq_some_iff, Literal, signed_iff_of_unsigned noMinus,
      signed_iff_of_unsigned noMinus]
    constructor
    · intro written
      refine ⟨written, ?_⟩
      rintro rfl
      exact written.resolve_left fun magnitude =>
        absurd magnitude.nonneg (Int.not_le.mpr leastNegative)
    · exact And.left

section Unique

variable {text : List Char} {one other : Int}

theorem Digits.unique {base : Nat} (small : base ≤ 16) {written : List Char} {one other : Nat}
    (first : Digits base written one) (second : Digits base written other) : one = other := by
  rw [← natural?_eq_some_iff small] at first second
  exact Option.some.inj (first.symm.trans second)

theorem Magnitude.unique (first : Magnitude text one) (second : Magnitude text other) :
    one = other := by
  cases first with
  | decimal written =>
    cases second with
    | decimal others => rw [written.unique (by decide) others]
    | based marked _ => exact absurd written (not_decimal_of_marked marked)
  | based marked written =>
    rw [magnitude_marked_iff (baseOf?_eq_some_iff.mpr marked)] at second
    obtain ⟨number, others, rfl⟩ := second
    rw [written.unique (le_sixteen_of_mem_marks marked) others]

theorem Magnitude.not_signWithin (magnitude : Magnitude text one) : ¬ SignWithin text other := by
  intro within
  cases within with
  | based marked written =>
    rw [magnitude_marked_iff (baseOf?_eq_some_iff.mpr marked)] at magnitude
    obtain ⟨number, plain, rfl⟩ := magnitude
    have small := le_sixteen_of_mem_marks marked
    cases written with
    | plus => exact not_digits_of_sign small (.inl rfl) plain
    | minus => exact not_digits_of_sign small (.inr rfl) plain

/-- A literal denotes one number. -/
theorem Literal.unique (first : Literal text one) (second : Literal text other) : one = other := by
  cases first with
  | plain written =>
    cases second with
    | plain others => exact written.unique others
    | negated _ => exact absurd (.inl written) not_magnitude_minus
  | negated written =>
    cases second with
    | plain others => exact absurd (.inl others) not_magnitude_minus
    | negated others => rw [written.unique others]

theorem Literal.not_signWithin (literal : Literal text one) :
    ¬ Signed SignWithin text other := by
  intro signed
  cases literal with
  | plain written =>
    cases signed with
    | plain within => exact written.not_signWithin within
    | negated _ => exact absurd (.inl written) not_magnitude_minus
  | negated written =>
    cases signed with
    | plain within => exact absurd (.inr within) not_magnitude_minus
    | negated within => exact written.not_signWithin within

end Unique

/-- A literal is read as its number, if that is a word and not the least one. -/
theorem parse?_of_literal {text : List Char} {number : Int} (literal : Literal text number) :
    parse? text = if number = Int64.minValue.toInt then none else Word.ofInt? number := by
  have safe : ∀ rest, text = '-' :: rest → ¬ SignWithin rest Int64.minValue.toInt := by
    rintro rest rfl within
    exact literal.not_signWithin (.negated within)
  have plain (value : Int) : ¬ SignWithin text value := fun within =>
    literal.not_signWithin (.plain within)
  apply Option.ext
  intro word
  have denoted : Literal text word.toInt ↔ word.toInt = number :=
    ⟨fun other => other.unique literal, fun same => same ▸ literal⟩
  have least : word.toInt = Int64.minValue.toInt ↔ word = Int64.minValue := Int64.toInt_inj
  rw [parse?_eq_some_iff safe, or_iff_left literal.not_signWithin, denoted]
  split
  · rename_i isLeast
    constructor
    · rintro ⟨same, within⟩
      exact absurd (within (least.mp (same.trans isLeast))) (plain _)
    · exact nofun
  · rename_i notLeast
    rw [Word.ofInt?_eq_some_iff]
    constructor
    · exact And.left
    · intro same
      exact ⟨same, fun isLeast => absurd (same.symm.trans (least.mpr isLeast)) notLeast⟩

section Decimal

/-- The digits of a number make the number. -/
theorem digits_toDigits (number : Nat) : Digits 10 (Nat.toDigits 10 number) number := by
  have decimal : ∀ c ∈ Nat.toDigits 10 number, c.isDigit = true := fun _ => isDigit_of_mem_toDigits
  have read := accumulate?_digits _ decimal 0
  rw [Nat.ofDigitChars_ten_toDigits] at read
  rw [← natural?_eq_some_iff (by decide)]
  unfold natural?
  split
  · rename_i empty
    exact absurd empty Nat.toDigits_ne_nil
  · exact read

/-- The decimal of a word is a literal of it. -/
theorem literal_toDecimal (word : Word) : Literal word.toDecimal.toList word.toInt := by
  rw [Word.toList_toDecimal]
  split
  · rename_i natural
    have written := Magnitude.decimal (digits_toDigits word.toInt.toNat)
    rw [Int.toNat_of_nonneg natural] at written
    exact .plain written
  · rename_i negative
    have written := Magnitude.decimal (digits_toDigits (-word.toInt).toNat)
    rw [Int.toNat_of_nonneg (by omega)] at written
    have literal := Signed.negated written
    rwa [Int.neg_neg] at literal

/-- The decimal of a word is read back, unless the word is the least one. -/
theorem parse?_toDecimal {word : Word} (notLeast : word ≠ Int64.minValue) :
    parse? word.toDecimal.toList = some word := by
  have different : word.toInt ≠ Int64.minValue.toInt := fun same =>
    notLeast (Int64.toInt_inj.mp same)
  rw [parse?_of_literal (literal_toDecimal word), if_neg different, Word.ofInt?_toInt]

end Decimal

end Numeral

namespace Operand

/-- Neither a register nor a label is written with digits and signs only. -/
theorem not_named_of_decimal {operand : String}
    (decimal : ∀ c ∈ operand.toList, c.isDigit = true ∨ c = '-') :
    isRegister operand = false ∧ isLabel operand = false := by
  have absent {c : Char} (undigital : ¬ (c.isDigit = true ∨ c = '-')) : c ∉ operand.toList :=
    fun member => undigital (decimal c member)
  constructor
  · have notPointer : operand ≠ "SP" := by
      rintro rfl
      exact absent (c := 'S') (by decide) (by decide)
    rw [isRegister, beq_eq_false_iff_ne.mpr notPointer, Bool.false_or]
    split
    · rename_i digits shape
      exact absurd (shape ▸ List.mem_cons_self) (absent (c := 'R') (by decide))
    · rfl
  · unfold isLabel isLabelText
    split
    · rename_i first rest shape
      exact absurd (shape ▸ List.mem_cons_self) (absent (c := '.') (by decide))
    · rfl

/-- An operand that is the decimal of a word stands for the word in every scope. -/
theorem value_toDecimal (scope : Scope) {word : Word} (notLeast : word ≠ Int64.minValue) :
    value scope word.toDecimal = .ok word := by
  have decimal : ∀ c ∈ word.toDecimal.toList, c.isDigit = true ∨ c = '-' :=
    fun _ => Word.isDigit_or_sign_of_mem_toDecimal
  have unnamed := not_named_of_decimal decimal
  have notZero : word.toDecimal ≠ zeroRegister := by
    intro same
    rw [same] at unnamed
    exact absurd unnamed.1 (by decide)
  rw [value, if_neg notZero, if_neg (Bool.eq_false_iff.mp unnamed.1),
    if_neg (Bool.eq_false_iff.mp unnamed.2), Numeral.parse?_toDecimal notLeast]

end Operand

namespace Numeral

/-- Reading literals is exact but for the least word. A literal is read as the number that it
denotes if that is a word other than the least one, and not at all otherwise. Of the other texts
those are read that have a sign between a base mark and the digits, as the number with both signs.
So the decimal of every word but the least one can be written as an operand. -/
theorem literal_exact (text : List Char) (scope : Scope) (word : Word) :
    (∀ number, Literal text number →
      parse? text = if number = Int64.minValue.toInt then none else Word.ofInt? number) ∧
    ((∀ number, ¬ Literal text number) →
      (∀ rest, text = '-' :: rest → ¬ SignWithin rest Int64.minValue.toInt) →
        (parse? text = some word ↔ Signed SignWithin text word.toInt ∧
          (word = Int64.minValue → SignWithin text word.toInt))) ∧
    (word ≠ Int64.minValue →
      parse? (Value.int word).render.toList = some word ∧
        Operand.value scope (Value.int word).render = .ok word) := by
  refine ⟨fun number => parse?_of_literal, fun noLiteral safe => ?_, fun notLeast => ?_⟩
  · rw [parse?_eq_some_iff safe, or_iff_right (noLiteral _)]
  · exact ⟨parse?_toDecimal notLeast, Operand.value_toDecimal scope notLeast⟩

/-- A literal in capitals, a text with two signs that is none, and the word above the least one. -/
theorem literal_exact_capital :
    (Literal "-0X7F".toList (-127) ∧ parse? "-0X7F".toList = some (-127)) ∧
    ((∀ number, ¬ Literal "-0x+7f".toList number) ∧ parse? "-0x+7f".toList = some (-127)) ∧
    Operand.value ∅ (Value.int (Int64.minValue + 1)).render = .ok (Int64.minValue + 1) := by
  have written : Digits 16 ['7', 'F'] 127 := ⟨[7, 15], by decide, by decide, by decide, by decide⟩
  have literal : Literal "-0X7F".toList (-127) := .negated (.based (by decide) written)
  have small : Digits 16 ['7', 'f'] 127 := ⟨[7, 15], by decide, by decide, by decide, by decide⟩
  have within : Signed SignWithin "-0x+7f".toList (-127) :=
    .negated (.based (by decide) (.plus small))
  have noLiteral (number : Int) : ¬ Literal "-0x+7f".toList number := fun other =>
    other.not_signWithin within
  have natural : ∀ number, SignWithin ['0', 'x', '+', '7', 'f'] number → 0 ≤ number := by
    rintro _ (⟨_, _ | _⟩)
    exact Int.natCast_nonneg _
  have safe : ∀ rest, "-0x+7f".toList = '-' :: rest → ¬ SignWithin rest Int64.minValue.toInt := by
    rintro rest same least
    obtain rfl := (List.cons.inj same).2
    exact absurd (natural _ least) (by decide)
  have plain := (literal_exact "-0X7F".toList ∅ (-127)).1 _ literal
  have negated := ((literal_exact "-0x+7f".toList ∅ (-127)).2.1 noLiteral safe).mpr
    ⟨within, fun least => absurd least (by decide)⟩
  have shown := (literal_exact [] ∅ (Int64.minValue + 1)).2.2 (by decide)
  exact ⟨⟨literal, plain.trans (by decide)⟩, ⟨noLiteral, negated⟩, shown.2⟩

/-- The least word has a literal that is not read, and a text is read that is no literal. -/
theorem literal_misread :
    Literal "-9223372036854775808".toList Int64.minValue.toInt ∧
      parse? "-9223372036854775808".toList = none ∧
    (∀ number, ¬ Literal "0x-5".toList number) ∧ parse? "0x-5".toList = some (-5) := by
  refine ⟨literal_toDecimal Int64.minValue, by decide, fun number literal => ?_, by decide⟩
  have five : Digits 16 ['5'] 5 := ⟨[5], by decide, by decide, by decide, by decide⟩
  have within : SignWithin "0x-5".toList (-5) := .based (by decide) (.minus five)
  exact literal.not_signWithin (.plain within)

end Numeral

end UrclDebugger
