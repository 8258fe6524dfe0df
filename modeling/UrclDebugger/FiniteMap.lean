/-!
# Finite maps

A finite map is its entries in strictly ascending key order. The order is part of the type: an
entry list is indexed by the key that all of its keys lie above, so two maps with the same lookups
are the same value and every traversal is ascending. The type has no field that mentions its
values' type in a proposition, which lets a value contain maps of values.
-/

namespace UrclDebugger

/-- A strict total order on keys. -/
class KeyOrder (κ : Type) [LT κ] : Prop where
  /-- No key lies below itself. -/
  irrefl : ∀ a : κ, ¬ a < a
  /-- The order is transitive. -/
  trans : ∀ a b c : κ, a < b → b < c → a < c
  /-- Of two different keys one lies below the other. -/
  connex : ∀ a b : κ, ¬ a < b → a ≠ b → b < a

instance : KeyOrder Int64 where
  irrefl _ := Int64.lt_irrefl
  trans _ _ _ := Int64.lt_trans
  connex _ _ notBelow different :=
    Int64.lt_of_le_of_ne (Int64.not_lt.mp notBelow) (Ne.symm different)

instance : KeyOrder String where
  irrefl := String.lt_irrefl
  trans _ _ _ := String.lt_trans
  connex a b notBelow different :=
    (String.le_total b a).elim
      (fun _ => Decidable.byContradiction fun notAbove =>
        different (String.le_antisymm (String.not_lt.mp notAbove) (String.not_lt.mp notBelow)))
      (fun below => absurd (String.le_antisymm below (String.not_lt.mp notBelow)) different)

/-- A key lies above a bound; without a bound every key does. -/
def IsAbove {κ : Type} [LT κ] (bound : Option κ) (key : κ) : Prop :=
  ∀ lower ∈ bound, lower < key

/-- Entries in strictly ascending key order, all of them above the bound. -/
inductive Entries (κ : Type) [LT κ] (β : Type) : Option κ → Type where
  | nil {bound : Option κ} : Entries κ β bound
  | cons {bound : Option κ} (key : κ) (above : IsAbove bound key) (value : β)
      (rest : Entries κ β (some key)) : Entries κ β bound

/-- A finite map from keys to values. -/
abbrev FiniteMap (κ : Type) [LT κ] (β : Type) : Type := Entries κ β none

namespace Entries

variable {κ β γ : Type} [LT κ]

instance {bound : Option κ} : EmptyCollection (Entries κ β bound) := ⟨.nil⟩

/-- The value of a key. -/
def get? [DecidableEq κ] {bound : Option κ} : Entries κ β bound → κ → Option β
  | .nil, _ => none
  | .cons key _ value rest, wanted => if wanted = key then some value else rest.get? wanted

/-- The entries with the value of one key computed from the value it has, if it has one. -/
def alterAbove [DecidableEq κ] [DecidableLT κ] [KeyOrder κ] (key : κ) (f : Option β → β)
    {bound : Option κ} (above : IsAbove bound key) : Entries κ β bound → Entries κ β bound
  | .nil => .cons key above (f none) .nil
  | .cons first firstAbove old rest =>
    if before : key < first then
      .cons key above (f none)
        (.cons first (fun _ member => Option.mem_some.mp member ▸ before) old rest)
    else if same : key = first then .cons first firstAbove (f (some old)) rest
    else
      .cons first firstAbove old
        (rest.alterAbove key f fun _ member =>
          Option.mem_some.mp member ▸ KeyOrder.connex key first before same)

/-- The entries in ascending key order. -/
def toList {bound : Option κ} : Entries κ β bound → List (κ × β)
  | .nil => []
  | .cons key _ value rest => (key, value) :: rest.toList

/-- The number of entries. -/
def size {bound : Option κ} : Entries κ β bound → Nat
  | .nil => 0
  | .cons _ _ _ rest => rest.size + 1

/-- The keys in ascending order. -/
def keys {bound : Option κ} (entries : Entries κ β bound) : List κ := entries.toList.map Prod.fst

/-- Whether there is no entry. -/
def isEmpty {bound : Option κ} : Entries κ β bound → Bool
  | .nil => true
  | .cons .. => false

/-- The same keys with new values. -/
def mapValues (f : β → γ) {bound : Option κ} : Entries κ β bound → Entries κ γ bound
  | .nil => .nil
  | .cons key above value rest => .cons key above (f value) (rest.mapValues f)

end Entries

namespace FiniteMap

variable {κ β : Type} [LT κ] [DecidableEq κ] [DecidableLT κ] [KeyOrder κ]

/-- The map with the value of one key computed from the value it has, if it has one. -/
def alter (entries : FiniteMap κ β) (key : κ) (f : Option β → β) : FiniteMap κ β :=
  entries.alterAbove key f fun _ member => nomatch member

/-- The map with one key bound to a value, whether it was bound before or not. -/
def insert (entries : FiniteMap κ β) (key : κ) (value : β) : FiniteMap κ β :=
  alter entries key fun _ => value

/-- The map that binds each key to the last value listed for it. -/
def ofList (entries : List (κ × β)) : FiniteMap κ β :=
  entries.foldl (fun entries entry => insert entries entry.1 entry.2) ∅

end FiniteMap

end UrclDebugger
