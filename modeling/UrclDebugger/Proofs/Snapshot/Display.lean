import Mathlib.Data.List.Shortlex
import UrclDebugger.Proofs.Snapshot.Extract
import UrclDebugger.Proofs.Text.Bytes

/-!
# The listing of registers

A name is shown above another one if it has fewer bytes, or as many and the lesser byte at the first
difference. Sorting arranges any registers by this order and leaves registers of one name as they
are (`Register.filter_sort`). In a listing no name comes twice, so it ascends strictly, and it is
the same in whatever order the variables of a scope are enumerated (`Snapshot.registers_ascend`).
-/

namespace UrclDebugger

namespace Register

/-- The order of display told by bytes: the number of bytes of the names, then the bytes. -/
def ShownBefore (a b : Register) : Prop :=
  List.Shortlex (· < ·) (Text.bytes a.name) (Text.bytes b.name)

variable {a b c : Register}

theorem shownBefore_iff : a.ShownBefore b ↔ a.name.utf8ByteSize < b.name.utf8ByteSize ∨
    a.name.utf8ByteSize = b.name.utf8ByteSize ∧ a.name < b.name := by
  rw [ShownBefore, List.shortlex_def, Text.length_bytes, Text.length_bytes, ← List.lt_iff_lex_lt]
  exact or_congr_right (and_congr_right fun _ => Text.bytes_lt_iff)

/-- A register may stand in front of another one unless the other is shown before it. -/
theorem precedes_iff_not_shownBefore : a.precedes b = true ↔ ¬ b.ShownBefore a := by
  have names : a.name ≤ b.name ↔ ¬ b.name < a.name := String.not_lt.symm
  rw [precedes_iff, shownBefore_iff, names]
  by_cases shorter : a.name.utf8ByteSize < b.name.utf8ByteSize
  · have notLonger : ¬ b.name.utf8ByteSize < a.name.utf8ByteSize := by omega
    have notEqual : b.name.utf8ByteSize ≠ a.name.utf8ByteSize := by omega
    simp [shorter, notLonger, notEqual]
  · by_cases equal : a.name.utf8ByteSize = b.name.utf8ByteSize
    · simp [equal]
    · have longer : b.name.utf8ByteSize < a.name.utf8ByteSize := by omega
      simp [shorter, equal, longer]

/-- Of two registers with different names the one that may stand in front is shown before. -/
theorem shownBefore_of_precedes (before : a.precedes b = true) (different : a.name ≠ b.name) :
    a.ShownBefore b := by
  rw [precedes_iff] at before
  rw [shownBefore_iff]
  apply before.imp_right
  rintro ⟨sizes, names⟩
  exact ⟨sizes, Decidable.byContradiction fun notLess =>
    different (String.le_antisymm names (String.not_lt.mp notLess))⟩

theorem precedes_of_name_eq (same : a.name = b.name) : a.precedes b = true := by
  rw [precedes_iff, same]
  exact .inr ⟨rfl, String.le_refl _⟩

/-- Sorting leaves the registers of one name in their order. -/
theorem filter_sort (registers : List Register) (name : String) :
    (sort registers).filter (fun register => register.name = name) =
      registers.filter fun register => register.name = name := by
  let named : List Register := registers.filter fun register => register.name = name
  have all : ∀ register ∈ named, register.name = name := by
    intro register member
    exact of_decide_eq_true (List.mem_filter.mp member).2
  -- registers of one name are in order already, so they stay in this order
  have alike : named.Pairwise fun a b => a.precedes b = true :=
    List.pairwise_of_forall_mem_list fun a first b second =>
      precedes_of_name_eq ((all a first).trans (all b second).symm)
  have kept : named.Sublist (sort registers) :=
    List.sublist_mergeSort precedes_trans precedes_total alike List.filter_sublist
  have chosen := kept.filter fun register => decide (register.name = name)
  have whole : named.filter (fun register => decide (register.name = name)) = named :=
    List.filter_eq_self.mpr fun register member => decide_eq_true (all register member)
  rw [whole] at chosen
  have alikes := (sort_perm registers).filter fun register => decide (register.name = name)
  exact (chosen.eq_of_length alikes.length_eq.symm).symm

/-- Nothing in a sorted list is shown before what stands in front of it. -/
theorem pairwise_not_shownBefore (registers : List Register) :
    (sort registers).Pairwise fun a b => ¬ b.ShownBefore a :=
  (pairwise_sort registers).imp precedes_iff_not_shownBefore.mp

end Register

namespace Snapshot

/-- A rearrangement of the variables that an engine lists enumerates them as well. -/
theorem Enumerates.of_perm {σ : Type} [Engine σ] [LawfulEngine σ] {scope : σ}
    {order : List String} (alike : order.Perm (Engine.names scope)) : Enumerates scope order where
  nodup := alike.nodup_iff.mpr (LawfulEngine.nodup_names scope)
  mem name := alike.mem_iff.trans (LawfulEngine.mem_names scope name)

theorem isRegister_iff {value : Value} : value.isRegister = true ↔
    (∃ word, value = .int word) ∨ ∃ flag, value = .bool flag := by
  cases value <;> simp [Value.isRegister]

/-- In a listing every register is shown before those behind it. -/
theorem pairwise_shownBefore {σ : Type} [Engine σ] (scope : σ) {names : List String}
    (distinct : names.Nodup) :
    (registersAmong scope names).Pairwise Register.ShownBefore := by
  have different : (registersAmong scope names).Pairwise fun a b => a.name ≠ b.name :=
    List.pairwise_map.mp (nodup_registersAmong scope distinct)
  have sorted : (registersAmong scope names).Pairwise fun a b => a.precedes b = true :=
    Register.pairwise_sort _
  exact sorted.imp₂ (fun _ _ => Register.shownBefore_of_precedes) different

/-- The listing of registers ascends. In whatever order the variables of a scope are enumerated,
each once, it holds those that are bound to integers and booleans with their values, each once, and
nothing else; every register has a name of fewer bytes than those behind it, or of as many and the
lesser byte at the first difference. So it is one list for all orders. Any registers are sorted to a
rearrangement of them by this order that leaves registers of one name as they were. -/
theorem registers_ascend (scope : Scope) {order : List String} (all : Enumerates scope order) :
    (∀ name value, ⟨name, value⟩ ∈ registersAmong scope order ↔ scope.get? name = some value ∧
      ((∃ word, value = .int word) ∨ ∃ flag, value = .bool flag)) ∧
    ((registersAmong scope order).map Register.name).Nodup ∧
    (registersAmong scope order).Pairwise Register.ShownBefore ∧
    registersAmong scope order = (extract scope).registers ∧
    (∀ other, Enumerates scope other →
      registersAmong scope other = registersAmong scope order) ∧
    ∀ registers : List Register, (Register.sort registers).Perm registers ∧
      (Register.sort registers).Pairwise (fun a b => ¬ b.ShownBefore a) ∧
      ∀ name, (Register.sort registers).filter (fun register => register.name = name) =
        registers.filter fun register => register.name = name := by
  have one (other : List String) (too : Enumerates scope other) :
      registersAmong scope other = registersAmong scope order :=
    registersAmong_eq too all fun _ _ _ => Iff.rfl
  refine ⟨?_, nodup_registersAmong scope all.nodup, pairwise_shownBefore scope all.nodup,
    (one _ (enumerates_names scope)).symm, one, ?_⟩
  · intro name value
    rw [all.mem_registersAmong_iff, isRegister_iff]
    exact Iff.rfl
  · intro registers
    exact ⟨Register.sort_perm registers, Register.pairwise_not_shownBefore registers,
      Register.filter_sort registers⟩

/-- A scope whose names are of different lengths, in bytes and in characters. -/
def accented : Scope :=
  FiniteMap.ofList [("R10", .int 7), ("ROM", .list #[]), ("SP", .int (-1)), ("é", .bool true)]

example : registersAmong accented ["é", "R10", "SP", "ROM"] =
    [⟨"SP", .int (-1)⟩, ⟨"é", .bool true⟩, ⟨"R10", .int 7⟩] := by cbv

theorem registers_ascend_accented :
    Enumerates accented ["é", "R10", "SP", "ROM"] ∧
      ⟨"é", .bool true⟩ ∈ registersAmong accented ["é", "R10", "SP", "ROM"] ∧
      registersAmong accented ["é", "R10", "SP", "ROM"] = (extract accented).registers := by
  have alike : ["é", "R10", "SP", "ROM"].Perm (Engine.names accented) := by decide
  have all := Enumerates.of_perm alike
  obtain ⟨listed, _, _, shown, _⟩ := registers_ascend accented all
  exact ⟨all, (listed "é" (.bool true)).mpr ⟨rfl, .inr ⟨true, rfl⟩⟩, shown⟩

end Snapshot

end UrclDebugger
