import Mathlib.Data.List.Nodup
import UrclDebugger.Snapshot.Extract

/-!
# The order of registers

Registers are shown by the length of their names and then by the names. On registers of different
names this is a total order, so a listing has one arrangement only, in whatever order the names were
enumerated (`registersAmong_eq`).
-/

namespace UrclDebugger

namespace Register

variable {a b c : Register}

theorem precedes_iff : a.precedes b = true ↔ a.name.utf8ByteSize < b.name.utf8ByteSize ∨
    a.name.utf8ByteSize = b.name.utf8ByteSize ∧ a.name ≤ b.name := by
  simp [precedes]

/-- Of two registers one precedes the other. -/
theorem precedes_total (a b : Register) : (a.precedes b || b.precedes a) = true := by
  rw [Bool.or_eq_true, precedes_iff, precedes_iff]
  have names := String.le_total a.name b.name
  have sizes := Nat.lt_trichotomy a.name.utf8ByteSize b.name.utf8ByteSize
  grind

theorem precedes_trans (a b c : Register) (before : a.precedes b = true)
    (after : b.precedes c = true) : a.precedes c = true := by
  rw [precedes_iff] at *
  obtain shorter | ⟨size, name⟩ := before
  · exact .inl (by omega)
  · obtain shorter | ⟨sizes, names⟩ := after
    · exact .inl (by omega)
    · exact .inr ⟨size.trans sizes, String.le_trans name names⟩

/-- Registers that precede each other have one name. -/
theorem name_eq_of_precedes (before : a.precedes b = true) (after : b.precedes a = true) :
    a.name = b.name := by
  rw [precedes_iff] at before after
  have names : a.name ≤ b.name ∧ b.name ≤ a.name := by
    constructor
    · exact before.elim (fun shorter => by omega) And.right
    · exact after.elim (fun shorter => by omega) And.right
  exact String.le_antisymm names.1 names.2

theorem pairwise_sort (registers : List Register) :
    (sort registers).Pairwise fun a b => a.precedes b = true :=
  List.pairwise_mergeSort precedes_trans precedes_total registers

theorem sort_perm (registers : List Register) : (sort registers).Perm registers :=
  List.mergeSort_perm registers precedes

/-- Sorted listings of the same registers are the same, if no two of the registers have one
name. -/
theorem sort_eq_sort {first second : List Register} (one : (first.map name).Nodup)
    (other : (second.map name).Nodup) (same : ∀ register, register ∈ first ↔ register ∈ second) :
    sort first = sort second := by
  have alike : first.Perm second :=
    (List.perm_ext_iff_of_nodup (List.Nodup.of_map name one) (List.Nodup.of_map name other)).mpr
      same
  have sorted : (sort first).Perm (sort second) :=
    (sort_perm first).trans (alike.trans (sort_perm second).symm)
  refine List.Perm.eq_of_pairwise ?_ (pairwise_sort first) (pairwise_sort second) sorted
  intro a b inFirst inSecond before after
  have listed : a ∈ first := (sort_perm first).mem_iff.mp inFirst
  have present : b ∈ first := (same b).mpr ((sort_perm second).mem_iff.mp inSecond)
  exact List.inj_on_of_nodup_map one listed present (name_eq_of_precedes before after)

end Register

namespace Snapshot

variable {σ : Type} [Engine σ]

/-- The register of a variable, if it holds an integer or a boolean. -/
def registerOf? (scope : σ) (name : String) : Option Register :=
  (Engine.read scope name).bind fun value => if value.isRegister then some ⟨name, value⟩ else none

theorem registerOf?_eq_some_iff {scope : σ} {name : String} {register : Register} :
    registerOf? scope name = some register ↔ register.name = name ∧
      Engine.read scope name = some register.value ∧ register.value.isRegister = true := by
  unfold registerOf?
  constructor
  · intro shown
    obtain ⟨value, read, chosen⟩ := Option.bind_eq_some_iff.mp shown
    split at chosen
    · rename_i kind
      obtain rfl := Option.some.inj chosen
      exact ⟨rfl, read, kind⟩
    · contradiction
  · rintro ⟨rfl, read, kind⟩
    rw [read, Option.bind_some, if_pos kind]

/-- The registers among variables that are enumerated in some order, in the order of display. -/
def registersAmong (scope : σ) (names : List String) : List Register :=
  Register.sort (names.filterMap (registerOf? scope))

/-- The registers of a scope are those among all its variables. -/
theorem registersOf_eq_registersAmong (scope : σ) :
    registersOf scope = registersAmong scope (Engine.names scope) := rfl

/-- The registers are the bound variables of the right kind. -/
theorem mem_registersAmong {scope : σ} {names : List String} {register : Register} :
    register ∈ registersAmong scope names ↔ register.name ∈ names ∧
      Engine.read scope register.name = some register.value ∧
      register.value.isRegister = true := by
  rw [registersAmong, (Register.sort_perm _).mem_iff, List.mem_filterMap]
  simp only [registerOf?_eq_some_iff]
  constructor
  · rintro ⟨name, listed, rfl, read, kind⟩
    exact ⟨listed, read, kind⟩
  · rintro ⟨listed, read, kind⟩
    exact ⟨register.name, listed, rfl, read, kind⟩

theorem nodup_map_registerOf? (scope : σ) {names : List String} (distinct : names.Nodup) :
    ((names.filterMap (registerOf? scope)).map Register.name).Nodup := by
  rw [List.map_filterMap]
  refine List.Pairwise.filterMap _ ?_ distinct
  -- what is made of a name has that name
  have named (name shown : String)
      (made : (registerOf? scope name).map Register.name = some shown) : shown = name := by
    obtain ⟨register, present, rfl⟩ := Option.map_eq_some_iff.mp made
    exact (registerOf?_eq_some_iff.mp present).1
  intro first second different shown madeFirst other madeSecond same
  exact different ((named first shown madeFirst).symm.trans (same.trans
    (named second other madeSecond)))

/-- A variable that is enumerated once is listed once. -/
theorem nodup_registersAmong (scope : σ) {names : List String} (distinct : names.Nodup) :
    ((registersAmong scope names).map Register.name).Nodup :=
  ((Register.sort_perm _).map Register.name).nodup_iff.mpr (nodup_map_registerOf? scope distinct)

/-- The bound variables of a scope in some order, each once. -/
structure Enumerates (scope : σ) (names : List String) : Prop where
  nodup : names.Nodup
  mem : ∀ name, name ∈ names ↔ (Engine.read scope name).isSome = true

/-- A variable that holds a register is enumerated. -/
theorem Enumerates.mem_registersAmong_iff {scope : σ} {names : List String}
    (all : Enumerates scope names) {register : Register} :
    register ∈ registersAmong scope names ↔
      Engine.read scope register.name = some register.value ∧
        register.value.isRegister = true := by
  rw [mem_registersAmong, all.mem]
  refine ⟨And.right, fun held => ⟨?_, held⟩⟩
  rw [held.1]
  rfl

/-- Scopes with the same registers list them alike, whatever else they bind and in whatever order
their variables are enumerated. -/
theorem registersAmong_eq {τ : Type} [Engine τ] {one : σ} {other : τ} {first second : List String}
    (ofOne : Enumerates one first) (ofOther : Enumerates other second)
    (agree : ∀ name value, value.isRegister = true →
      (Engine.read one name = some value ↔ Engine.read other name = some value)) :
    registersAmong one first = registersAmong other second := by
  refine Register.sort_eq_sort (nodup_map_registerOf? one ofOne.nodup)
    (nodup_map_registerOf? other ofOther.nodup) fun register => ?_
  have listed : register ∈ registersAmong one first ↔ register ∈ registersAmong other second := by
    rw [ofOne.mem_registersAmong_iff, ofOther.mem_registersAmong_iff]
    exact and_congr_left fun kind => agree register.name register.value kind
  rwa [registersAmong, registersAmong, (Register.sort_perm _).mem_iff,
    (Register.sort_perm _).mem_iff] at listed

end Snapshot

end UrclDebugger
