import UrclDebugger.Proofs.Snapshot.Extract

/-!
# The memory listing

The rows of a listing are its cells in ascending order, and a gap stands in front of every cell that
does not follow the one above it. Which rows can stand below a cell is an inductive relation
(`MemoryRow.LaidOut`), and the positions of the gaps are read off from it: no gap is the last row or
stands in front of another one. In front of the first cell counts the address `-1`, whether the
memory has a cell there or not (`Snapshot.memory_laid_out`).
-/

namespace UrclDebugger

/-- A word that lies below another one has a successor. -/
theorem Word.exists_add?_one {a b : Word} (below : a < b) : (a.add? 1).isSome = true := by
  have less : a.toInt < b.toInt := Int64.lt_iff_toInt_lt.mp below
  have greatest := Int64.toInt_le b
  have least := Int64.minValue_le_toInt a
  have one : (1 : Word).toInt = 1 := rfl
  rw [← Option.ne_none_iff_isSome, Word.add?, Ne, Word.ofInt?_eq_none_iff, one]
  omega

/-- A word is the successor of another one exactly when its value is the next one. -/
theorem Word.add?_one_eq_some_iff {a b : Word} : a.add? 1 = some b ↔ b.toInt = a.toInt + 1 := by
  have one : (1 : Word).toInt = 1 := rfl
  rw [Word.add?, Word.ofInt?_eq_some_iff, one]

namespace MemoryRow

/-- Rows that can stand below a cell with the given address: cells, each behind a gap exactly when
its address is not the one behind the address of the cell above. -/
inductive LaidOut : Word → List MemoryRow → Prop where
  | nil (last : Word) : LaidOut last []
  | next {last address : Word} {text : String} {rows : List MemoryRow}
      (follows : address.toInt = last.toInt + 1) (others : LaidOut address rows) :
      LaidOut last (cell address text :: rows)
  | apart {last address : Word} {text : String} {rows : List MemoryRow}
      (leaves : address.toInt ≠ last.toInt + 1) (others : LaidOut address rows) :
      LaidOut last (gap :: cell address text :: rows)

theorem laidOut_layoutAfter (last : Word) (cells : List (Word × String)) :
    LaidOut last (layoutAfter last cells) := by
  induction cells generalizing last with
  | nil => exact .nil last
  | cons first rest ih =>
    obtain ⟨address, text⟩ := first
    rw [layoutAfter]
    split
    · rename_i follows
      exact .next (Word.add?_one_eq_some_iff.mp follows) (ih address)
    · rename_i leaves
      exact .apart (fun follows => leaves (Word.add?_one_eq_some_iff.mpr follows)) (ih address)

/-- The address of the lowest cell of rows; of `last`, if there is no cell. -/
def addressAbove (last : Word) (above : List MemoryRow) : Word :=
  (above.filterMap address?).getLastD last

@[simp] theorem addressAbove_nil (last : Word) : addressAbove last [] = last := rfl

@[simp] theorem addressAbove_gap (last : Word) (above : List MemoryRow) :
    addressAbove last (gap :: above) = addressAbove last above := rfl

@[simp] theorem addressAbove_cell (last address : Word) (text : String)
    (above : List MemoryRow) :
    addressAbove last (cell address text :: above) = addressAbove address above := by
  have first : (cell address text :: above).filterMap address? =
      address :: above.filterMap address? := rfl
  rw [addressAbove, first, List.getLastD_cons]
  rfl

section Split

variable {last address : Word} {text : String} {rows above below : List MemoryRow}

/-- A cell on top is no gap at the end. -/
theorem getLast?_cell_cons : (cell address text :: above).getLast? = some gap ↔
    above.getLast? = some gap := by
  rw [List.getLast?_cons]
  cases above.getLast? <;> simp

/-- A gap stands directly above a cell exactly when the address is not the one behind the address
of the cell above. -/
theorem LaidOut.gap_iff (laid : LaidOut last rows)
    (parts : rows = above ++ cell address text :: below) :
    above.getLast? = some gap ↔
      address.toInt ≠ (addressAbove last above).toInt + 1 := by
  induction laid generalizing above with
  | nil last => simp at parts
  | @next last first shown rows follows others ih =>
    match above with
    | [] =>
      obtain ⟨same, _⟩ := List.cons.inj parts
      obtain ⟨rfl, rfl⟩ := cell.inj same
      simp [follows]
    | row :: above =>
      obtain ⟨rfl, later⟩ := List.cons.inj parts
      rw [getLast?_cell_cons, addressAbove_cell, ih later]
  | @apart last first shown rows leaves others ih =>
    match above with
    | [] => cases parts
    | [row] =>
      obtain ⟨rfl, later⟩ := List.cons.inj parts
      obtain ⟨same, _⟩ := List.cons.inj later
      obtain ⟨rfl, rfl⟩ := cell.inj same
      simpa using leaves
    | row :: second :: above =>
      obtain ⟨rfl, later⟩ := List.cons.inj parts
      obtain ⟨rfl, further⟩ := List.cons.inj later
      rw [List.getLast?_cons_cons, getLast?_cell_cons, addressAbove_gap, addressAbove_cell,
        ih further]

/-- Below a gap stands a cell. -/
theorem LaidOut.cell_of_gap (laid : LaidOut last rows) (parts : rows = above ++ gap :: below) :
    ∃ address text others, below = cell address text :: others := by
  induction laid generalizing above with
  | nil last => simp at parts
  | next follows others ih =>
    match above with
    | [] => cases parts
    | row :: above => exact ih (List.cons.inj parts).2
  | @apart last first shown rows leaves others ih =>
    match above with
    | [] => exact ⟨first, shown, rows, (List.cons.inj parts).2.symm⟩
    | [row] => cases (List.cons.inj parts).2
    | row :: second :: above => exact ih (List.cons.inj (List.cons.inj parts).2).2

end Split

end MemoryRow

namespace Snapshot

open MemoryRow

section Memory

variable {scope : Scope} {cells : FiniteMap Word Value}
  (held : scope.get? Variable.memory = some (.map cells))

include held

theorem laidOut_memory : LaidOut (-1) (extract scope).memory := by
  have memory : Engine.read scope Variable.memory = some (.map cells) := held
  simp only [extract, extractWithLog, memoryOf, memory]
  exact laidOut_layoutAfter _ _

/-- The addresses of the listing are the keys of the memory. -/
theorem addresses_extract : (extract scope).addresses = cells.keys := by
  rw [addresses_eq, cellTexts_of_memory held, List.map_map]
  rfl

theorem pairwise_addresses : (extract scope).addresses.Pairwise (· < ·) := by
  rw [addresses_extract held]
  exact List.pairwise_map.mpr cells.pairwise_toList

/-- The cells of the listing are those of the memory, each with the text of its value. -/
theorem cell_mem_memory_iff {address : Word} {text : String} :
    cell address text ∈ (extract scope).memory ↔
      ∃ value, cells.get? address = some value ∧ text = value.render := by
  have listed : cell address text ∈ (extract scope).memory ↔
      (address, text) ∈ History.cellTexts (extract scope) := by
    unfold History.cellTexts
    rw [List.mem_filterMap]
    constructor
    · intro member
      exact ⟨_, member, rfl⟩
    · rintro ⟨row, member, shown⟩
      cases row with
      | gap => contradiction
      | cell => cases shown; exact member
  rw [listed, cellTexts_of_memory held, List.mem_map]
  constructor
  · rintro ⟨⟨key, value⟩, member, shown⟩
    obtain ⟨rfl, rfl⟩ := Prod.mk.inj shown
    exact ⟨value, (cells.mem_toList key value).mp member, rfl⟩
  · rintro ⟨value, found, rfl⟩
    exact ⟨(address, value), (cells.mem_toList address value).mpr found, rfl⟩

/-- The address above a cell has a successor: it is `-1`, or lies below the address of the cell. -/
theorem exists_successor {above below : List MemoryRow} {address : Word} {text : String}
    (parts : (extract scope).memory = above ++ cell address text :: below) :
    ((addressAbove (-1) above).add? 1).isSome = true := by
  have ascending := pairwise_addresses held
  rw [addresses, parts, List.filterMap_append, List.pairwise_append] at ascending
  obtain ⟨_, _, across⟩ := ascending
  rcases List.eq_nil_or_concat (above.filterMap address?) with none | ⟨others, last, ends⟩
  · rw [addressAbove, none]
    decide
  · rw [List.concat_eq_append] at ends
    have lower : last < address := by
      apply across last
      · rw [ends]
        exact List.mem_concat_self
      · exact List.mem_cons_self
    rw [addressAbove, ends, List.getLastD_concat]
    exact Word.exists_add?_one lower

end Memory

/-- How memory is laid out. The cells of the listing are those of the memory, in strictly ascending
order of their addresses, each with the text of its value. Directly above a cell stands a gap
exactly when its address is not the one behind the address of the cell above, which counts as `-1`
for the first cell; the address behind is always a word. Below a gap stands a cell, so gaps are
neither adjacent nor last. -/
theorem memory_laid_out {scope : Scope} {cells : FiniteMap Word Value}
    (held : scope.get? Variable.memory = some (.map cells)) :
    (∀ address, address ∈ (extract scope).addresses ↔ (cells.get? address).isSome = true) ∧
    (extract scope).addresses.Pairwise (· < ·) ∧
    (∀ address text, cell address text ∈ (extract scope).memory ↔
      ∃ value, cells.get? address = some value ∧ text = value.render) ∧
    (∀ above address text below,
      (extract scope).memory = above ++ cell address text :: below →
      ((addressAbove (-1) above).add? 1).isSome = true ∧
        (above.getLast? = some gap ↔ address.toInt ≠ (addressAbove (-1) above).toInt + 1)) ∧
    ∀ above below, (extract scope).memory = above ++ gap :: below →
      ∃ address text others, below = cell address text :: others := by
  have laid := laidOut_memory held
  refine ⟨?_, pairwise_addresses held, fun address text => cell_mem_memory_iff held, ?_, ?_⟩
  · intro address
    rw [addresses_extract held]
    exact cells.mem_keys address
  · intro above address text below parts
    exact ⟨exists_successor held parts, laid.gap_iff parts⟩
  · intro above below parts
    exact laid.cell_of_gap parts

/-- Cells at both ends of the address space and around zero. -/
def outermost : FiniteMap Word Value :=
  FiniteMap.ofList [(Int64.maxValue, .text "last"), (0, .text "zero"), (-1, .text "minus"),
    (1, .bool true), (Int64.minValue, .text "first")]

/-- The cell at `-1` stands behind a gap, and the one at zero does not. -/
theorem memory_laid_out_outermost :
    ∃ scope : Scope, scope.get? Variable.memory = some (.map outermost) ∧
      (extract scope).memory =
        [gap, cell Int64.minValue "first", gap, cell (-1) "minus"] ++
          cell 0 "zero" :: [cell 1 "true", gap, cell Int64.maxValue "last"] ∧
      (extract scope).addresses.Pairwise (· < ·) ∧
      [gap, cell Int64.minValue "first", gap, cell (-1) "minus"].getLast? ≠ some gap := by
  have held : ((∅ : Scope).insert Variable.memory (.map outermost)).get? Variable.memory =
      some (.map outermost) := FiniteMap.get?_insert_self ..
  have rows : (extract ((∅ : Scope).insert Variable.memory (.map outermost))).memory =
      [gap, cell Int64.minValue "first", gap, cell (-1) "minus"] ++
        cell 0 "zero" :: [cell 1 "true", gap, cell Int64.maxValue "last"] := by
    decide
  obtain ⟨_, ascending, _, gaps, _⟩ := memory_laid_out held
  have zero := (gaps _ _ _ _ rows).2
  have follows : ¬ (0 : Word).toInt ≠
      (addressAbove (-1) [gap, cell Int64.minValue "first", gap, cell (-1) "minus"]).toInt + 1 := by
    decide
  exact ⟨_, held, rows, ascending, fun isGap => follows (zero.mp isGap)⟩

end Snapshot

end UrclDebugger
