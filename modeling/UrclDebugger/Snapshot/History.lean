import UrclDebugger.Snapshot.Basic

/-!
# What has changed

A history keeps the text that every register and memory cell showed last. Showing a snapshot
compares each entry with what is kept and then keeps the new text. An entry that vanishes is not
forgotten: when it comes back it is compared with what it showed before.
-/

namespace UrclDebugger

/-- How an entry compares with what it showed last. -/
inductive Change where
  /-- It was never shown. -/
  | new
  | changed
  | unchanged
  deriving DecidableEq, Repr

/-- New and changed entries are highlighted. -/
def Change.isHighlighted : Change → Bool
  | .new | .changed => true
  | .unchanged => false

/-- The changes of one snapshot's entries. -/
structure Delta where
  registers : FiniteMap String Change := ∅
  memory : FiniteMap Word Change := ∅

/-- The texts shown last. -/
structure History where
  registers : FiniteMap String String := ∅
  memory : FiniteMap Word String := ∅

instance : Inhabited Delta := ⟨{}⟩
instance : Inhabited History := ⟨{}⟩

namespace History

/-- How a text compares with the one that was shown last. -/
def compare (last : Option String) (text : String) : Change :=
  match last with
  | none => .new
  | some shown => if shown = text then .unchanged else .changed

/-- Compares entries one after the other with what is kept and keeps their texts. -/
def observeEntries {κ : Type} [LT κ] [DecidableEq κ] [DecidableLT κ] [KeyOrder κ] :
    List (κ × String) → FiniteMap κ Change × FiniteMap κ String →
      FiniteMap κ Change × FiniteMap κ String
  | [], state => state
  | (key, text) :: rest, (changes, kept) =>
    observeEntries rest
      (changes.insert key (compare (kept.get? key) text), kept.insert key text)

/-- The registers of a snapshot with their texts. -/
def registerTexts (snapshot : Snapshot) : List (String × String) :=
  snapshot.registers.map fun register => (register.name, register.text)

/-- The memory cells of a snapshot with their texts. -/
def cellTexts (snapshot : Snapshot) : List (Word × String) :=
  snapshot.memory.filterMap fun
    | .gap => none
    | .cell address text => some (address, text)

/-- The changes that a snapshot shows, and the history with the snapshot. -/
def observe (history : History) (snapshot : Snapshot) : Delta × History :=
  let registers := observeEntries (registerTexts snapshot) (∅, history.registers)
  let memory := observeEntries (cellTexts snapshot) (∅, history.memory)
  (⟨registers.1, memory.1⟩, ⟨registers.2, memory.2⟩)

/-- Whether nothing has been shown. -/
def isEmpty (history : History) : Bool :=
  history.registers.isEmpty && history.memory.isEmpty

end History

end UrclDebugger
