import UrclDebugger.View.Scroll

/-!
# Scrolling moves a window just enough

A window of rows shows as many rows as it has room for, one after the other from its offset. Of the
offsets that leave no room empty, and show the followed row if there is one, the new offset is the
one nearest to the old one (`Scroll.justEnough`). Following a row and leaving no room empty do not
undo each other, since a row that exists can be shown without leaving room empty.

Sizes of a machine have a limit, and differences of them must not be negative.
`Scroll.adjustWithin?` forms the new offset from sums and differences that are given up where they
are no sizes; none ever is.
-/

namespace UrclDebugger.Scroll

/-- How far two offsets are apart. -/
def distance (a b : Nat) : Nat := (a - b) + (b - a)

section Sizes

variable (limit : Nat)

/-- The sum of two sizes, unless it reaches the limit. -/
def addWithin? (a b : Nat) : Option Nat := if a + b < limit then some (a + b) else none

/-- The difference of two sizes, unless it is negative. -/
def subWithin? (a b : Nat) : Option Nat := if b ≤ a then some (a - b) else none

/-- The offset at which a row is shown, formed from sizes. -/
def towardWithin? (height offset row : Nat) : Option Nat :=
  if row < offset then some row
  else do
    let behind ← addWithin? limit offset height
    if behind ≤ row then subWithin? (← addWithin? limit row 1) height
    else some offset

/-- The offset that leaves no room empty, formed from sizes. -/
def clampWithin? (count height offset : Nat) : Option Nat :=
  if height < count then do return min offset (← subWithin? count height)
  else some 0

/-- The new offset of a pane, formed from sizes. -/
def adjustWithin? (count paneHeight offset : Nat) (followed : Option Nat) : Option Nat := do
  let height := windowHeight paneHeight
  let moved ←
    match followed with
    | some row => towardWithin? limit height offset row
    | none => some offset
  clampWithin? count height moved

end Sizes

theorem windowHeight_pos (paneHeight : Nat) : 0 < windowHeight paneHeight := by
  unfold windowHeight
  omega

theorem adjust_none (count paneHeight offset : Nat) :
    adjust count paneHeight offset none = min offset (count - windowHeight paneHeight) :=
  clamp_eq_min ..

/-- The new offset is the old one, brought into the range of offsets that show the row and leave no
room empty. -/
theorem adjust_some {count row : Nat} (inside : row < count) (paneHeight offset : Nat) :
    adjust count paneHeight offset (some row) =
      max (row + 1 - windowHeight paneHeight)
        (min offset (min row (count - windowHeight paneHeight))) := by
  have room := windowHeight_pos paneHeight
  simp only [adjust, clamp_eq_min]
  generalize windowHeight paneHeight = height at room ⊢
  unfold toward
  split
  · omega
  · split <;> omega

/-- An offset brought into a range is nearer than every other one in the range. -/
theorem distance_lt_of_ne {low high offset other : Nat} (range : low ≤ high)
    (above : low ≤ other) (below : other ≤ high) (differs : other ≠ max low (min offset high)) :
    distance (max low (min offset high)) offset < distance other offset := by
  unfold distance
  omega

theorem clampWithin?_eq (count height offset : Nat) :
    clampWithin? count height offset = some (clamp count height offset) := by
  unfold clampWithin? clamp subWithin?
  split
  · rename_i less
    rw [if_pos (Nat.le_of_lt less)]
    rfl
  · rfl

/-- Where two sizes of half the limit can be added, a row is followed without leaving the sizes. -/
theorem towardWithin?_eq {limit height offset row : Nat} (small : 2 * height ≤ limit)
    (short : 2 * (row + 1) ≤ limit) :
    towardWithin? limit height offset row = some (toward height offset row) := by
  unfold towardWithin? toward
  split
  · rfl
  · have sum : offset + height < limit := by omega
    have next : row + 1 < limit := by omega
    simp only [addWithin?, if_pos sum, Option.bind_eq_bind, Option.bind_some]
    split
    · have least : height ≤ row + 1 := by omega
      simp only [Option.bind_some, subWithin?, if_pos least]
    · rfl

/-- Moving a window of rows just enough. -/
structure JustEnough {α : Type} (rows : List α) (paneHeight offset : Nat)
    (followed : Option Nat) : Prop where
  /-- As many rows are shown as there is room for. -/
  length_shown :
    (visible rows paneHeight (adjust rows.length paneHeight offset followed)).length =
      min rows.length (windowHeight paneHeight)
  /-- The rows from the new offset on are shown, in order. -/
  shown : ∀ index < min rows.length (windowHeight paneHeight), ∃ row,
    rows[adjust rows.length paneHeight offset followed + index]? = some row ∧
      (visible rows paneHeight (adjust rows.length paneHeight offset followed))[index]? = some row
  /-- Without a followed row the offset changes only where room would be left empty. -/
  unfollowed : followed = none →
    adjust rows.length paneHeight offset followed =
      min offset (rows.length - windowHeight paneHeight)
  /-- The new offset is one that shows the followed row and leaves no room empty. -/
  allowed : ∀ row ∈ followed,
    row + 1 - windowHeight paneHeight ≤ adjust rows.length paneHeight offset followed ∧
      adjust rows.length paneHeight offset followed ≤
        min row (rows.length - windowHeight paneHeight)
  /-- Every other such offset is further from the old one. -/
  nearest : ∀ row ∈ followed, ∀ other, row + 1 - windowHeight paneHeight ≤ other →
    other ≤ min row (rows.length - windowHeight paneHeight) →
    other ≠ adjust rows.length paneHeight offset followed →
    distance (adjust rows.length paneHeight offset followed) offset < distance other offset
  /-- The followed row is among the rows shown. -/
  shows : ∀ row ∈ followed, adjust rows.length paneHeight offset followed ≤ row ∧
    ∃ item, rows[row]? = some item ∧
      (visible rows paneHeight (adjust rows.length paneHeight offset followed))[
        row - adjust rows.length paneHeight offset followed]? = some item
  /-- An offset that leaves no room empty and shows the followed row is kept. -/
  kept : ∀ row ∈ followed, offset ≤ rows.length - windowHeight paneHeight → offset ≤ row →
    row < offset + windowHeight paneHeight →
    adjust rows.length paneHeight offset followed = offset
  /-- The new offset is formed within the sizes of a machine whose panes are less than 65536 high
  and whose lists have at most half as many items as there are sizes. -/
  within : ∀ limit, 2 * 65536 ≤ limit → 2 * rows.length ≤ limit → paneHeight < 65536 →
    adjustWithin? limit rows.length paneHeight offset followed =
      some (adjust rows.length paneHeight offset followed)

section Rows

variable {α : Type} (rows : List α) (paneHeight : Nat)

theorem getElem?_visible (offset : Nat) {index : Nat} (room : index < windowHeight paneHeight) :
    (visible rows paneHeight offset)[index]? = rows[offset + index]? := by
  rw [visible, List.getElem?_take_of_lt room, List.getElem?_drop]

/-- An offset that leaves no room empty has rows for all of it. -/
theorem length_visible {offset : Nat} (full : offset ≤ rows.length - windowHeight paneHeight) :
    (visible rows paneHeight offset).length = min rows.length (windowHeight paneHeight) := by
  rw [visible, List.length_take, List.length_drop]
  omega

theorem adjust_le (offset : Nat) {followed : Option Nat} :
    adjust rows.length paneHeight offset followed ≤ rows.length - windowHeight paneHeight := by
  unfold adjust
  rw [clamp_eq_min]
  exact Nat.min_le_right _ _

theorem adjustWithin?_eq {limit offset : Nat} {followed : Option Nat}
    (inside : ∀ row ∈ followed, row < rows.length) (sizes : 2 * 65536 ≤ limit)
    (items : 2 * rows.length ≤ limit) (high : paneHeight < 65536) :
    adjustWithin? limit rows.length paneHeight offset followed =
      some (adjust rows.length paneHeight offset followed) := by
  unfold adjustWithin? adjust
  cases followed with
  | none => exact clampWithin?_eq ..
  | some row =>
    have height : 2 * windowHeight paneHeight ≤ limit := by
      unfold windowHeight
      omega
    have short : 2 * (row + 1) ≤ limit := by
      have found := inside row rfl
      omega
    simp only [towardWithin?_eq height short]
    exact clampWithin?_eq ..

/-- A pane that follows one of its rows, or none, moves its window just enough. -/
theorem justEnough (offset : Nat) {followed : Option Nat}
    (inside : ∀ row ∈ followed, row < rows.length) :
    JustEnough rows paneHeight offset followed where
  length_shown := length_visible rows paneHeight (adjust_le ..)
  shown := by
    intro index short
    have full : adjust rows.length paneHeight offset followed ≤
        rows.length - windowHeight paneHeight := adjust_le ..
    have found : adjust rows.length paneHeight offset followed + index < rows.length := by
      omega
    refine ⟨_, List.getElem?_eq_getElem found, ?_⟩
    rw [getElem?_visible rows paneHeight _ (by omega), List.getElem?_eq_getElem found]
  unfollowed := by
    rintro rfl
    exact adjust_none ..
  allowed := by
    rintro row rfl
    have found := inside row rfl
    have room := windowHeight_pos paneHeight
    rw [adjust_some found]
    omega
  nearest := by
    rintro row rfl other above below differs
    have found := inside row rfl
    rw [adjust_some found] at differs ⊢
    exact distance_lt_of_ne (Nat.le_trans above below) above below differs
  shows := by
    rintro row rfl
    have found := inside row rfl
    have room := windowHeight_pos paneHeight
    have new := adjust_some found paneHeight offset
    have before : adjust rows.length paneHeight offset (some row) ≤ row := by omega
    refine ⟨before, _, List.getElem?_eq_getElem found, ?_⟩
    rw [getElem?_visible rows paneHeight _ (by omega), Nat.add_sub_of_le before,
      List.getElem?_eq_getElem found]
  kept := by
    rintro row rfl full before behind
    have room := windowHeight_pos paneHeight
    rw [adjust_some (inside row rfl)]
    omega
  within := fun _ => adjustWithin?_eq rows paneHeight inside

end Rows

end UrclDebugger.Scroll
