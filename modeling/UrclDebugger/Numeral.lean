import UrclDebugger.Word

/-!
# Integer literals

A literal is an optional minus sign and a magnitude. The magnitude is a run of decimal digits, or
one of the marks `0x`, `0b` and `0o` in either case followed by digits of that base. A based
magnitude may itself carry a sign. A literal is read only if its magnitude fits a word.
-/

namespace UrclDebugger.Numeral

/-- The value of a digit in bases up to sixteen, letters in either case. -/
def digitValue? (c : Char) : Option Nat :=
  if '0' ≤ c ∧ c ≤ '9' then some (c.toNat - '0'.toNat)
  else if 'a' ≤ c ∧ c ≤ 'f' then some (c.toNat - 'a'.toNat + 10)
  else if 'A' ≤ c ∧ c ≤ 'F' then some (c.toNat - 'A'.toNat + 10)
  else none

/-- The value of a digit of the given base. -/
def digitOf? (base : Nat) (c : Char) : Option Nat :=
  (digitValue? c).filter (· < base)

/-- The number that digits written after `value` make with it. -/
def accumulate? (base : Nat) (value : Nat) : List Char → Option Nat
  | [] => some value
  | c :: rest =>
    match digitOf? base c with
    | some digit => accumulate? base (value * base + digit) rest
    | none => none

/-- The number written by one or more digits. -/
def natural? (base : Nat) : List Char → Option Nat
  | [] => none
  | digits => accumulate? base 0 digits

/-- A magnitude after a base mark: digits with at most one sign before them. -/
def signed? (base : Nat) : List Char → Option Word
  | '+' :: digits => (natural? base digits).bind fun n => Word.ofInt? n
  | '-' :: digits => (natural? base digits).bind fun n => Word.ofInt? (-n)
  | digits => (natural? base digits).bind fun n => Word.ofInt? n

/-- The base that a mark letter names. -/
def baseOf? (mark : Char) : Option Nat :=
  match mark.toLower with
  | 'x' => some 16
  | 'b' => some 2
  | 'o' => some 8
  | _ => none

/-- A magnitude, based or decimal. -/
def magnitude? : List Char → Option Word
  | '0' :: mark :: digits =>
    match baseOf? mark with
    | some base => signed? base digits
    | none => (natural? 10 ('0' :: mark :: digits)).bind fun n => Word.ofInt? n
  | digits => (natural? 10 digits).bind fun n => Word.ofInt? n

/-- The word that a literal denotes. -/
def parse? : List Char → Option Word
  | '-' :: digits => (magnitude? digits).map (- ·)
  | digits => magnitude? digits

end UrclDebugger.Numeral
