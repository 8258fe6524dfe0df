import Mathlib.Data.List.Lex
import Mathlib.Tactic.SplitIfs
import UrclDebugger.FiniteMap

/-!
# Texts as bytes

The bytes of a text are those of its characters in UTF-8. A character with a greater code point has
a greater byte at the first place where its bytes differ from another one's, so texts are ordered by
their bytes as they are by their characters (`bytes_lt_iff`). The encoding takes a code point apart
into digits to base 64, one to a byte, and puts the number of bytes into the first of them.
-/

namespace UrclDebugger.Text

/-- The bytes of a text. -/
def bytes (text : String) : List UInt8 := text.toUTF8.data.toList

theorem bytes_eq_flatMap (text : String) :
    bytes text = text.toList.flatMap String.utf8EncodeChar := by
  have encoded : text.toByteArray = text.toList.utf8Encode := by
    conv_lhs => rw [← String.ofList_toList (s := text)]
    exact String.toByteArray_ofList
  rw [bytes, String.toUTF8, encoded, List.utf8Encode, List.data_toByteArray]

theorem length_bytes (text : String) : (bytes text).length = text.utf8ByteSize :=
  Array.length_toList

/-- A byte that is a digit above a mark. -/
theorem toNat_marked {digit mark : Nat} (fits : digit + mark < 256) :
    (UInt8.ofNat (digit + mark)).toNat = digit + mark := by
  rw [UInt8.toNat_ofNat']
  exact Nat.mod_eq_of_lt fits

/-- Of two characters the one with the lesser code point has the lesser bytes. They differ at a
place that both have, so what follows does not matter. -/
theorem encode_append_lt {c d : Char} (smaller : c < d) (after behind : List UInt8) :
    String.utf8EncodeChar c ++ after < String.utf8EncodeChar d ++ behind := by
  have points : c.val.toNat < d.val.toNat := smaller
  have greatest : d.val.toNat < 1114112 := by
    rcases d.valid with low | ⟨_, high⟩
    · omega
    · exact high
  have trailing (digit : Nat) : (UInt8.ofNat (digit % 64 + 128)).toNat = digit % 64 + 128 :=
    toNat_marked (by omega)
  have leadingTwo (digit : Nat) : (UInt8.ofNat (digit % 32 + 192)).toNat = digit % 32 + 192 :=
    toNat_marked (by omega)
  have leadingThree (digit : Nat) : (UInt8.ofNat (digit % 16 + 224)).toNat = digit % 16 + 224 :=
    toNat_marked (by omega)
  have leadingFour (digit : Nat) : (UInt8.ofNat (digit % 8 + 240)).toNat = digit % 8 + 240 :=
    toNat_marked (by omega)
  have twice (point : Nat) : point / 4096 = point / 64 / 64 := by omega
  have thrice (point : Nat) : point / 262144 = point / 64 / 64 / 64 := by omega
  unfold String.utf8EncodeChar
  generalize c.val.toNat = low at points
  generalize d.val.toNat = high at points greatest
  dsimp only
  -- the mark of the first byte grows with the number of bytes, and equally many digits compare as
  -- the numbers do
  split_ifs <;>
    simp only [List.cons_append, List.nil_append, List.cons_lt_cons_iff, UInt8.lt_iff_toNat_lt,
      ← UInt8.toNat_inj, UInt8.toNat_ofNat', trailing, leadingTwo, leadingThree, leadingFour, twice,
      thrice] <;>
    omega

theorem encode_ne_nil (c : Char) : String.utf8EncodeChar c ≠ [] := by
  unfold String.utf8EncodeChar
  dsimp only
  split_ifs <;> exact List.cons_ne_nil _ _

/-- Lesser characters have lesser bytes. By induction on how the characters compare. -/
theorem flatMap_encode_lt {first second : List Char} (smaller : first < second) :
    first.flatMap String.utf8EncodeChar < second.flatMap String.utf8EncodeChar := by
  replace smaller := (List.lt_iff_lex_lt first second).mp smaller
  induction smaller with
  | @nil c rest =>
    obtain ⟨byte, others, encoded⟩ := List.exists_cons_of_ne_nil (encode_ne_nil c)
    rw [List.flatMap_nil, List.flatMap_cons, encoded]
    exact List.nil_lt_cons _ _
  | rel lesser =>
    rw [List.flatMap_cons, List.flatMap_cons]
    exact encode_append_lt lesser _ _
  | cons _ ih =>
    rw [List.flatMap_cons, List.flatMap_cons]
    exact List.append_left_lt ih

/-- Texts are ordered by their bytes as they are by their characters. -/
theorem bytes_lt_iff {a b : String} : bytes a < bytes b ↔ a < b := by
  have onward {a b : String} (smaller : a < b) : bytes a < bytes b := by
    rw [bytes_eq_flatMap, bytes_eq_flatMap]
    exact flatMap_encode_lt smaller
  refine ⟨fun smaller => ?_, onward⟩
  by_cases same : a = b
  · subst same
    exact absurd smaller (List.lt_irrefl _)
  · by_cases lesser : a < b
    · exact lesser
    · have greater : b < a := KeyOrder.connex a b lesser same
      exact absurd smaller (List.lt_asymm (onward greater))

end UrclDebugger.Text
