import UrclDebugger.Proofs.View.Scrolling
import UrclDebugger.View.Memory
import UrclDebugger.View.Program
import UrclDebugger.View.Stack

/-!
# Panes show the rows that they follow

A pane that follows one of its rows draws it, wherever its window was before
(`Pane.showsRow_of_followed`). The program pane follows the instruction at the instruction pointer,
the stack pane the active cell, and the memory pane the last cell that is new or has changed.
-/

namespace UrclDebugger

/-- A pane is drawn as a box with rows in it, over any screen; the first of them is the one at the
offset that is left, and the row at the index is among them. Where there is room between the borders
of the box none of its rows is cut off. -/
def Pane.ShowsRow (drawn : Screen → Screen × Nat) (area : Area) (offset index : Nat) (row : Row) :
    Prop :=
  ∃ title focused rows,
    (∀ screen, drawn screen = (drawList screen area title focused rows, offset)) ∧
      offset ≤ index ∧ rows[index - offset]? = some row ∧
      (3 ≤ area.height → rows.length ≤ area.inner.height)

/-- A cell is new or has changed. -/
def Delta.Updates (delta : Delta) (address : Word) : Prop :=
  delta.memory.get? address = some .new ∨ delta.memory.get? address = some .changed

/-- The row of a memory listing at an index is the last cell that is new or has changed. -/
structure Frame.LastUpdated (frame : Frame) (index : Nat) (address : Word) (text : String) :
    Prop where
  cell : frame.snapshot.memory[index]? = some (.cell address text)
  updated : frame.delta.Updates address
  last : ∀ later, index < later → ∀ other shown,
    frame.snapshot.memory[later]? = some (.cell other shown) → ¬ frame.delta.Updates other

namespace Pane

/-- A row is shown from the offset that drawing leaves. -/
theorem ShowsRow.from_drawn {drawn : Screen → Screen × Nat} {area : Area} {offset index : Nat}
    {row : Row} (shows : ShowsRow drawn area offset index row) (screen : Screen) :
    ShowsRow drawn area (drawn screen).2 index row := by
  have shown := shows
  obtain ⟨_, _, _, same, _⟩ := shown
  rw [same screen]
  exact shows

/-- A pane shows the row that it follows. -/
theorem showsRow_of_followed {content : Content} {index : Nat}
    (followed : content.followed = some index) (inside : index < content.count) (area : Area)
    (focused : Bool) (offset : Nat) :
    ∃ moved, ShowsRow (fun screen => draw screen area focused true offset content) area moved
      index (content.row index) := by
  have listed : ∀ row ∈ some index, row < (List.range content.count).length := by
    rintro row same
    obtain rfl := Option.some.inj same
    rwa [List.length_range]
  have moved := Scroll.justEnough (List.range content.count) area.height offset listed
  obtain ⟨before, item, there, shown⟩ := moved.shows index rfl
  have shows := moved.length_shown
  rw [List.length_range] at before shown shows
  obtain rfl : index = item := by
    rw [List.getElem?_range inside] at there
    exact Option.some.inj there
  let rows := Scroll.visible (List.range content.count) area.height
    (Scroll.adjust content.count area.height offset (some index))
  refine ⟨_, content.title, focused, rows.map content.row, fun screen => ?_, before, ?_,
    fun room => ?_⟩
  · unfold draw
    rw [if_pos rfl, followed]
  · rw [List.getElem?_map, shown]
    rfl
  · rw [List.length_map, shows]
    show min content.count (max (area.height - 2) 1) ≤ area.height - 2
    omega

end Pane

namespace View

section Memory

variable {delta : Delta}

theorem isUpdated_cell_iff {address : Word} {text : String} :
    isUpdated delta (.cell address text) = true ↔ delta.Updates address := by
  rcases found : delta.memory.get? address with _ | _ | _ | _ <;>
    simp [isUpdated, Delta.Updates, found, Change.isHighlighted]

/-- Where no row shows a new or changed cell there is no last one. -/
theorem lastUpdated?_eq_none {rows : List MemoryRow}
    (unchanged : ∀ row ∈ rows, isUpdated delta row = false) (start : Nat) :
    lastUpdated? delta start rows = none := by
  induction rows generalizing start with
  | nil => rfl
  | cons row rest ih =>
    obtain ⟨here, behind⟩ := List.forall_mem_cons.mp unchanged
    rw [lastUpdated?, ih behind, here]
    rfl

/-- A row that shows a new or changed cell is the last such row if no row behind it does. By
induction on the rows. -/
theorem lastUpdated?_eq_some {rows : List MemoryRow} {index : Nat} {row : MemoryRow}
    (found : rows[index]? = some row) (updated : isUpdated delta row = true)
    (last : ∀ later, index < later → ∀ other, rows[later]? = some other →
      isUpdated delta other = false) (start : Nat) :
    lastUpdated? delta start rows = some (start + index) := by
  induction rows generalizing index start with
  | nil => contradiction
  | cons first rest ih =>
    cases index with
    | zero =>
      obtain rfl := Option.some.inj found
      have behind : ∀ other ∈ rest, isUpdated delta other = false := by
        intro other member
        obtain ⟨later, there⟩ := List.mem_iff_getElem?.mp member
        exact last (later + 1) (Nat.succ_pos later) other there
      rw [lastUpdated?, lastUpdated?_eq_none behind, updated]
      rfl
    | succ index =>
      have behind := ih found
        (fun later after => last (later + 1) (Nat.succ_lt_succ after)) (start + 1)
      rw [lastUpdated?, behind, Option.some_or, Nat.add_assoc, Nat.add_comm 1]

/-- The memory pane follows the last cell that is new or has changed. -/
theorem followed_memory {frame : Frame} {index : Nat} {address : Word} {text : String}
    (last : frame.LastUpdated index address text) : (memory frame).followed = some index := by
  have behind : ∀ later, index < later → ∀ other, frame.snapshot.memory[later]? = some other →
      isUpdated frame.delta other = false := by
    intro later after other found
    cases other with
    | gap => rfl
    | cell place shown =>
      rw [← Bool.not_eq_true, isUpdated_cell_iff]
      exact last.last later after place shown found
  have followed := lastUpdated?_eq_some last.cell (isUpdated_cell_iff.mpr last.updated) behind 0
  rwa [Nat.zero_add] at followed

end Memory

section Shows

variable (area : Area) (focused : Bool) (offset : Nat) {frame : Frame} {index : Nat}

/-- When the program pane follows, it shows the instruction at the instruction pointer, marked. -/
theorem showsRow_drawProgram {listing : ProgramListing} {source : String}
    (present : frame.snapshot.program = some listing)
    (pointed : listing.pointer.toIndex? = some index)
    (found : listing.instructions[index]? = some source) :
    ∃ width moved, Pane.ShowsRow
      (fun screen => drawProgram screen area frame focused true offset) area moved index
      (instructionRow width index true source) := by
  have inside : index < listing.instructions.size := (Array.getElem?_eq_some_iff.mp found).1
  have current : listing.current? = some index := by
    rw [ProgramListing.current?, pointed]
    exact Option.filter_some_pos (decide_eq_true inside)
  have row : ∃ width, (program listing).row index = instructionRow width index true source := by
    unfold program
    dsimp only
    rw [current, found, beq_self_eq_true, Option.getD_some]
    exact ⟨_, rfl⟩
  have followed : (program listing).followed = some index := current
  obtain ⟨width, row⟩ := row
  obtain ⟨moved, shows⟩ := Pane.showsRow_of_followed followed inside area focused offset
  refine ⟨width, moved, ?_⟩
  unfold drawProgram
  rw [present, ← row]
  exact shows

/-- When the stack pane follows, it shows the active cell, marked. -/
theorem showsRow_drawStack {view : StackView} {text : String}
    (present : frame.snapshot.stack = some view)
    (pointed : view.activeIndex.toIndex? = some index) (found : view.cells[index]? = some text) :
    ∃ moved, Pane.ShowsRow (fun screen => drawStack screen area frame focused true offset) area
      moved index (stackRow index true text) := by
  have inside : index < view.cells.size := (Array.getElem?_eq_some_iff.mp found).1
  have active : view.active? = some index := by
    rw [StackView.active?, pointed]
    exact Option.filter_some_pos (decide_eq_true inside)
  have filled : view.cells.isEmpty = false := by
    rw [Array.isEmpty_eq_false_iff_exists_mem]
    exact ⟨text, Array.mem_of_getElem? found⟩
  have row : (stack view).row index = stackRow index true text := by
    simp only [stack, filled, active, found, Option.getD_some, beq_self_eq_true,
      Bool.false_eq_true, if_false]
  have followed : (stack view).followed = some index := by
    simp only [stack, filled, active, Bool.false_eq_true, if_false]
  have counted : index < (stack view).count := by
    simpa only [stack, filled, Bool.false_eq_true, if_false] using inside
  obtain ⟨moved, shows⟩ := Pane.showsRow_of_followed followed counted area focused offset
  refine ⟨moved, ?_⟩
  unfold drawStack
  rw [present, ← row]
  exact shows

/-- When the memory pane follows, it shows the last cell that is new or has changed. -/
theorem showsRow_drawMemory {address : Word} {text : String}
    (last : frame.LastUpdated index address text) :
    ∃ width moved, Pane.ShowsRow
      (fun screen => drawMemory screen area frame focused true offset) area moved index
      (memoryPaneRow frame.delta width (.cell address text)) := by
  have filled : frame.snapshot.memory.isEmpty = false := by
    rw [List.isEmpty_eq_false_iff_exists_mem]
    exact ⟨_, List.mem_of_getElem? last.cell⟩
  have inside : index < (memory frame).count := (List.getElem?_eq_some_iff.mp last.cell).1
  have row : ∃ width, (memory frame).row index =
      memoryPaneRow frame.delta width (.cell address text) := by
    simp only [memory, List.getElem?_toArray, last.cell]
    exact ⟨_, rfl⟩
  obtain ⟨width, row⟩ := row
  obtain ⟨moved, shows⟩ :=
    Pane.showsRow_of_followed (followed_memory last) inside area focused offset
  refine ⟨width, moved, ?_⟩
  unfold drawMemory
  rw [filled, ← row]
  exact shows

end Shows

end View

end UrclDebugger
