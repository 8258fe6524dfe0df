import UrclDebugger.App.Key

/-!
# Keys from a terminal

A terminal sends a key as a character in UTF-8, as a control character, or as a sequence that starts
with the escape character. The escape character alone is the escape key, which only a pause in the
input can tell from the start of a sequence. Decoding takes one key from the front of the bytes that
have arrived; as long as more bytes may belong to the key it takes nothing.
-/

namespace UrclDebugger.Terminal

/-- The number of bytes of the character that a byte starts. -/
def characterLength (first : UInt8) : Nat :=
  if first < 0xC0 then 1 else if first < 0xE0 then 2 else if first < 0xF0 then 3 else 4

/-- The key of a single character. -/
def characterKey? (c : Char) : Option Key :=
  if c = '\r' ∨ c = '\n' then some .enter
  else if c = '\t' then some .tab
  else if c = '\x08' ∨ c = '\x7f' then some .backspace
  else if 1 ≤ c.toNat ∧ c.toNat ≤ 26 then some (.char (Char.ofNat (c.toNat + 96)) true)
  else if c.toNat < 0x20 then none
  else some (.char c false)

/-- The key of a sequence with the given parameters and last byte. -/
def sequenceKey? (parameters : List UInt8) (last : UInt8) : Option Key :=
  match String.ofList ((parameters ++ [last]).map fun byte => Char.ofNat byte.toNat) with
  | "A" => some .up
  | "B" => some .down
  | "C" => some .right
  | "D" => some .left
  | "H" | "1~" | "7~" => some .home
  | "5~" => some .pageUp
  | "6~" => some .pageDown
  | "Z" => some .backTab
  | _ => none

/-- Whether a byte ends a sequence. -/
def endsSequence (byte : UInt8) : Bool := 0x40 ≤ byte && byte ≤ 0x7E

/-- The bytes of a sequence up to its last byte, the last byte, and what follows. -/
def splitSequence? : List UInt8 → Option (List UInt8 × UInt8 × List UInt8)
  | [] => none
  | byte :: rest =>
    if endsSequence byte then some ([], byte, rest)
    else (splitSequence? rest).map fun (front, last, following) => (byte :: front, last, following)

/-- The first key of the input, if its bytes stand for one, and the bytes behind them. Without a
pause, bytes that may go on are no key yet; after a pause they are what they are. -/
def decode? (paused : Bool) : List UInt8 → Option (Option Key × List UInt8)
  | [] => none
  | [0x1B] => if paused then some (some .escape, []) else none
  | 0x1B :: 0x5B :: rest =>
    match splitSequence? rest with
    | some (parameters, last, following) => some (sequenceKey? parameters last, following)
    | none => if paused then some (none, []) else none
  | [0x1B, 0x4F] => if paused then some (none, []) else none
  | 0x1B :: 0x4F :: last :: rest => some (sequenceKey? [] last, rest)
  | 0x1B :: rest => some (some .escape, rest)
  | first :: rest =>
    let missing := characterLength first - 1
    if rest.length < missing then if paused then some (none, []) else none
    else
      let bytes := ByteArray.mk (first :: rest.take missing).toArray
      let decoded := (String.fromUTF8? bytes).bind (·.toList.head?)
      some (decoded.bind characterKey?, rest.drop missing)

end UrclDebugger.Terminal
