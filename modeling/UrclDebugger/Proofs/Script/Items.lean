import UrclDebugger.FiniteMap.Lemmas
import UrclDebugger.Proofs.Script.Evaluation
import UrclDebugger.Proofs.Script.Statement

/-!
# Assigned items and read items

An item of a variable is read by an expression and assigned by a statement, and both select the same
one: what was assigned is read under each position of the item, every other position reads as
before, and assigning what is read changes nothing (`assignItem_selects`).
-/

namespace UrclDebugger

namespace Value

/-- The position names the place from the front or, negative, from the end. -/
def NamesPlace (size : Nat) (position : Word) (place : Nat) : Prop :=
  place < size ∧ (position.toInt = place ∨ position.toInt = (place : Int) - size)

/-- Both positions name one place, from the same end or from different ones. -/
def SamePlace (size : Nat) (one other : Word) : Prop :=
  ∃ place, NamesPlace size one place ∧ NamesPlace size other place

instance (size : Nat) (position : Word) (place : Nat) :
    Decidable (NamesPlace size position place) :=
  inferInstanceAs (Decidable (_ ∧ _))

instance (size : Nat) (one other : Word) : Decidable (SamePlace size one other) :=
  decidable_of_iff
    (∃ place, place < size ∧ NamesPlace size one place ∧ NamesPlace size other place)
    ⟨fun ⟨place, _, both⟩ => ⟨place, both⟩, fun ⟨place, both⟩ => ⟨place, both.1.1, both⟩⟩

variable {items : Array Value} {cells : Entries Word Value none} {base value updated : Value}
  {position other : Word} {size place : Nat}

theorem NamesPlace.slot?_eq (names : NamesPlace size position place) :
    slot? size position = some place :=
  slot?_eq_some_iff.mpr names

theorem NamesPlace.unique {another : Nat} (one : NamesPlace size position place)
    (second : NamesPlace size position another) : place = another :=
  Option.some.inj (one.slot?_eq.symm.trans second.slot?_eq)

/-- The positions that name a place reach as far below zero as above. -/
theorem exists_namesPlace_iff :
    (∃ place, NamesPlace size position place) ↔
      -(size : Int) ≤ position.toInt ∧ position.toInt < size := by
  constructor
  · rintro ⟨place, inside, front | back⟩
    · omega
    · omega
  · rintro ⟨low, high⟩
    by_cases negative : position.toInt < 0
    · refine ⟨(position.toInt + size).toNat, ?_, .inr ?_⟩ <;> omega
    · refine ⟨position.toInt.toNat, ?_, .inl ?_⟩ <;> omega

section Lists

theorem item_list_eq_ok_iff :
    (list items).item position = .ok value ↔
      ∃ place, NamesPlace items.size position place ∧ items[place]? = some value := by
  constructor
  · intro read
    unfold item at read
    dsimp only at read
    split at read
    · rename_i found selected
      obtain rfl := Except.ok.inj read
      obtain ⟨place, named, here⟩ := Option.bind_eq_some_iff.mp selected
      exact ⟨place, slot?_eq_some_iff.mp named, here⟩
    · contradiction
  · rintro ⟨place, names, here⟩
    rw [item, names.slot?_eq, Option.bind_some, here]

theorem setItem_list_eq_ok_iff :
    (list items).setItem position value = .ok updated ↔
      ∃ place, NamesPlace items.size position place ∧
        updated = .list (items.setIfInBounds place value) := by
  constructor
  · intro set
    unfold setItem at set
    dsimp only at set
    split at set
    · rename_i place named
      exact ⟨place, slot?_eq_some_iff.mp named, (Except.ok.inj set).symm⟩
    · contradiction
  · rintro ⟨place, names, rfl⟩
    rw [setItem, names.slot?_eq]

/-- An item of a list can be read exactly at the positions that name a place. -/
theorem exists_item_list_iff :
    (∃ value, (list items).item position = .ok value) ↔
      ∃ place, NamesPlace items.size position place := by
  constructor
  · rintro ⟨value, read⟩
    obtain ⟨place, names, here⟩ := item_list_eq_ok_iff.mp read
    exact ⟨place, names⟩
  · rintro ⟨place, names⟩
    exact ⟨_, item_list_eq_ok_iff.mpr ⟨place, names, Array.getElem?_eq_getElem names.1⟩⟩

/-- A list whose item was replaced gives the new one at each position of the place. -/
theorem item_setIfInBounds_same (names : NamesPlace items.size other place) :
    (list (items.setIfInBounds place value)).item other = .ok value := by
  apply item_list_eq_ok_iff.mpr
  refine ⟨place, ?_, Array.getElem?_setIfInBounds_self_of_lt names.1⟩
  rwa [Array.size_setIfInBounds]

/-- A list whose item was replaced is read as before at the other positions. -/
theorem item_setIfInBounds_other (elsewhere : ¬ NamesPlace items.size other place) :
    (list (items.setIfInBounds place value)).item other = (list items).item other := by
  unfold item
  dsimp only
  rw [Array.size_setIfInBounds]
  cases named : slot? items.size other with
  | none => rfl
  | some found =>
    have different : place ≠ found := by
      rintro rfl
      exact elsewhere (slot?_eq_some_iff.mp named)
    rw [Option.bind_some, Option.bind_some, Array.getElem?_setIfInBounds_ne different]

end Lists

/-- A map whose cell was replaced gives the new value at its key and is read as before elsewhere. -/
theorem item_insert : (map (FiniteMap.insert cells position value)).item other =
    if other = position then .ok value else (map cells).item other := by
  unfold item
  dsimp only
  rw [FiniteMap.get?_insert]
  by_cases same : other = position
  · rw [if_pos same, if_pos same]
  · rw [if_neg same, if_neg same]

/-- Replacing an item by itself changes nothing. -/
theorem setItem_item (read : base.item position = .ok value)
    (set : base.setItem position value = .ok updated) : updated = base := by
  cases base with
  | list items =>
    obtain ⟨place, names, here⟩ := item_list_eq_ok_iff.mp read
    obtain ⟨another, second, rfl⟩ := setItem_list_eq_ok_iff.mp set
    obtain rfl := names.unique second
    obtain ⟨inside, rfl⟩ := Array.getElem?_eq_some_iff.mp here
    rw [Array.setIfInBounds_def, dif_pos inside, Array.set_getElem_self]
  | map cells =>
    have bound : cells.get? position = some value := by
      unfold item at read
      dsimp only at read
      split at read
      · rename_i found here
        rw [here, Except.ok.inj read]
      · contradiction
    have same := Except.ok.inj set
    rw [FiniteMap.insert_of_get? bound] at same
    exact same.symm
  | _ =>
    unfold setItem at set
    contradiction

end Value

/-- What reading an item of a variable gives. -/
def Scope.item (scope : Scope) (name : String) (position : Word) : Except EvalError Value :=
  (Expr.index (.name name) (.literal (.int position))).evaluate scope

/-- The scopes differ in the items of one variable that the given positions denote: these read as
the value in the changed scope. -/
structure Scope.ItemReplaced (scope changed : Scope) (name : String) (value : Value)
    (denotes : Word → Prop) : Prop where
  inside : ∀ position, denotes position → changed.item name position = .ok value
  outside : ∀ position, ¬ denotes position → changed.item name position = scope.item name position
  others : ∀ other, other ≠ name → changed.get? other = scope.get? other

section Reading

variable {scope : Scope} {name : String} {base : Value} {position : Word}

/-- An item of a variable is the same under all expressions of its position. -/
theorem Expr.evaluate_index_name {place : Expr}
    (placed : place.evaluate scope = .ok (.int position)) :
    (index (.name name) place).evaluate scope = scope.item name position := by
  simp only [Scope.item, evaluate, placed]

theorem Scope.item_of_bound (bound : scope.get? name = some base) :
    scope.item name position = base.item position := by
  rw [Scope.item, Expr.evaluate_index_literal, Expr.evaluate_name_of_bound bound]
  rfl

theorem Scope.item_insert_self :
    Scope.item (scope.insert name base) name position = base.item position :=
  Scope.item_of_bound (FiniteMap.get?_insert_self scope name base)

end Reading

namespace Statement

variable {scope changed : Scope} {name : String} {place assigned : Expr} {position : Word}
  {value base : Value}

/-- An item assignment completes when the variable has a value whose item can be replaced. -/
theorem run_assignItem_eq_ok_iff (placed : place.evaluate scope = .ok (.int position))
    (found : assigned.evaluate scope = .ok value) (bound : scope.get? name = some base) :
    run scope (.assign name (some place) assigned) = .ok changed ↔
      ∃ updated, base.setItem position value = .ok updated ∧
        scope.insert name updated = changed := by
  rw [run_assignItem placed found, bound]
  dsimp only
  cases base.setItem position value with
  | error error =>
    constructor
    · intro failed
      contradiction
    · rintro ⟨updated, set, _⟩
      contradiction
  | ok whole =>
    constructor
    · intro ran
      exact ⟨whole, rfl, Except.ok.inj ran⟩
    · rintro ⟨updated, set, rfl⟩
      rw [Except.ok.inj set, Except.map]

/-- Assigning what an item reads leaves the scope as it is. -/
theorem run_assignItem_self
    (ran : run scope (.assign name (some place) (.index (.name name) place)) = .ok changed) :
    changed = scope := by
  cases run_eq_ok_iff.mp ran with
  | item placed found bound set =>
    rw [Expr.evaluate_index_name placed, Scope.item_of_bound bound] at found
    rw [Value.setItem_item found set, FiniteMap.insert_of_get? bound]

section Lists

variable {items : Array Value} (placed : place.evaluate scope = .ok (.int position))
  (found : assigned.evaluate scope = .ok value) (bound : scope.get? name = some (.list items))
include placed found bound

/-- Assigning to an item of a list completes at the positions that name a place. -/
theorem exists_run_assignItem_list :
    (∃ changed, run scope (.assign name (some place) assigned) = .ok changed) ↔
      ∃ slot, Value.NamesPlace items.size position slot := by
  constructor
  · rintro ⟨changed, ran⟩
    obtain ⟨updated, set, _⟩ := (run_assignItem_eq_ok_iff placed found bound).mp ran
    obtain ⟨slot, names, _⟩ := Value.setItem_list_eq_ok_iff.mp set
    exact ⟨slot, names⟩
  · rintro ⟨slot, names⟩
    have set : (Value.list items).setItem position value = .ok _ :=
      Value.setItem_list_eq_ok_iff.mpr ⟨slot, names, rfl⟩
    exact ⟨_, (run_assignItem_eq_ok_iff placed found bound).mpr ⟨_, set, rfl⟩⟩

/-- Assigning to an item of a list keeps its size and all other items. -/
theorem run_assignItem_list
    (ran : run scope (.assign name (some place) assigned) = .ok changed) :
    (∃ updated, changed.get? name = some (.list updated) ∧ updated.size = items.size) ∧
      scope.ItemReplaced changed name value (Value.SamePlace items.size position) := by
  obtain ⟨updated, set, rfl⟩ := (run_assignItem_eq_ok_iff placed found bound).mp ran
  obtain ⟨slot, names, rfl⟩ := Value.setItem_list_eq_ok_iff.mp set
  constructor
  · exact ⟨_, FiniteMap.get?_insert_self .., Array.size_setIfInBounds⟩
  constructor
  · rintro other ⟨same, first, second⟩
    -- The position of the assignment names one place only, so the other names the assigned item.
    obtain rfl := names.unique first
    rw [Scope.item_insert_self]
    exact Value.item_setIfInBounds_same second
  · intro other different
    have elsewhere : ¬ Value.NamesPlace items.size other slot := fun second =>
      different ⟨slot, names, second⟩
    rw [Scope.item_insert_self, Scope.item_of_bound bound]
    exact Value.item_setIfInBounds_other elsewhere
  · intro other different
    exact FiniteMap.get?_insert_of_ne _ _ different

end Lists

/-- Assigning to a cell of a map adds or replaces it and keeps all other cells. -/
theorem run_assignItem_map {cells : Entries Word Value none}
    (placed : place.evaluate scope = .ok (.int position))
    (found : assigned.evaluate scope = .ok value) (bound : scope.get? name = some (.map cells)) :
    ∃ changed, run scope (.assign name (some place) assigned) = .ok changed ∧
      (∃ updated, changed.get? name = some (.map updated)) ∧
        scope.ItemReplaced changed name value (· = position) := by
  have ran := (run_assignItem_eq_ok_iff placed found bound).mpr ⟨_, rfl, rfl⟩
  refine ⟨_, ran, ⟨_, FiniteMap.get?_insert_self ..⟩, ?_, ?_, ?_⟩
  · intro other same
    rw [Scope.item_insert_self, Value.item_insert, if_pos same]
  · intro other different
    rw [Scope.item_insert_self, Value.item_insert, if_neg different, Scope.item_of_bound bound]
  · intro other different
    exact FiniteMap.get?_insert_of_ne _ _ different

/-- Values other than lists and maps have no items to assign. -/
theorem run_assignItem_other (placed : place.evaluate scope = .ok (.int position))
    (found : assigned.evaluate scope = .ok value) (bound : scope.get? name = some base)
    (notList : base.kind ≠ .list) (notMap : base.kind ≠ .map) :
    run scope (.assign name (some place) assigned) = .error (.itemsNotAssignable base.kind) := by
  apply Fails.run_eq
  apply Fails.item placed found bound
  cases base with
  | list => exact absurd rfl notList
  | map => exact absurd rfl notMap
  | _ => rfl

/-- Assigning to an item of a variable and reading it select the same one. In a list both succeed at
the positions from minus the size up to the size; the list keeps its size, every position of the
item reads as the assigned value, and all others read as before. In a map any key can be assigned.
Other values have no items. No other variable changes, and assigning an item to itself changes
nothing. What is read does not depend on the expression of the position. -/
theorem assignItem_selects (scope : Scope) (name : String) (place : Expr) :
    (∀ assigned position value, place.evaluate scope = .ok (.int position) →
      assigned.evaluate scope = .ok value →
      (∀ items, scope.get? name = some (.list items) →
        ((∃ changed, run scope (.assign name (some place) assigned) = .ok changed) ↔
          ∃ old, (Expr.index (.name name) place).evaluate scope = .ok old) ∧
        ((∃ old, (Expr.index (.name name) place).evaluate scope = .ok old) ↔
          -(items.size : Int) ≤ position.toInt ∧ position.toInt < items.size) ∧
        ∀ changed, run scope (.assign name (some place) assigned) = .ok changed →
          (∃ updated, changed.get? name = some (.list updated) ∧ updated.size = items.size) ∧
          scope.ItemReplaced changed name value (Value.SamePlace items.size position)) ∧
      (∀ cells, scope.get? name = some (.map cells) →
        ∃ changed, run scope (.assign name (some place) assigned) = .ok changed ∧
          (∃ updated, changed.get? name = some (.map updated)) ∧
          scope.ItemReplaced changed name value (· = position)) ∧
      ∀ base, scope.get? name = some base → base.kind ≠ .list → base.kind ≠ .map →
        run scope (.assign name (some place) assigned) =
          .error (.itemsNotAssignable base.kind)) ∧
    (∀ changed, run scope (.assign name (some place) (.index (.name name) place)) = .ok changed →
      changed = scope) ∧
    ∀ position, place.evaluate scope = .ok (.int position) →
      (Expr.index (.name name) place).evaluate scope = scope.item name position := by
  refine ⟨fun assigned position value placed found => ⟨fun items bound => ?_,
    fun cells bound => run_assignItem_map placed found bound,
    fun base bound => run_assignItem_other placed found bound⟩, fun changed => run_assignItem_self,
    fun position => Expr.evaluate_index_name⟩
  have reads : (∃ old, (Expr.index (.name name) place).evaluate scope = .ok old) ↔
      ∃ slot, Value.NamesPlace items.size position slot := by
    rw [Expr.evaluate_index_name placed, Scope.item_of_bound bound]
    exact Value.exists_item_list_iff
  refine ⟨?_, ?_, fun changed => run_assignItem_list placed found bound⟩
  · rw [reads]
    exact exists_run_assignItem_list placed found bound
  · rw [reads]
    exact Value.exists_namesPlace_iff

/-- The last of three items is assigned from the end, read from the front and assigned to itself; a
map takes a negative key, and an integer has no item. -/
theorem assignItem_selects_last :
    (∃ changed, run (FiniteMap.insert ∅ "A" (.list #[.int 1, .int 2, .int 3]))
        (.assign "A" (some (.negate (.literal (.int 1)))) (.literal (.int 9))) = .ok changed ∧
      changed.item "A" 2 = .ok (.int 9) ∧ changed.item "A" 0 = .ok (.int 1) ∧
      run changed (.assign "A" (some (.literal (.int 2)))
        (.index (.name "A") (.literal (.int 2)))) = .ok changed) ∧
    (∃ changed, run (FiniteMap.insert ∅ "A" (.map ∅))
        (.assign "A" (some (.literal (.int (-1)))) (.literal (.int 9))) = .ok changed ∧
      changed.item "A" (-1) = .ok (.int 9)) ∧
    run (FiniteMap.insert ∅ "A" (.int 1))
      (.assign "A" (some (.literal (.int 0))) (.literal (.int 9))) =
        .error (.itemsNotAssignable .int) := by
  refine ⟨?_, ?_, ?_⟩
  · have selects := assignItem_selects
      (FiniteMap.insert ∅ "A" (.list #[.int 1, .int 2, .int 3])) "A" (.negate (.literal (.int 1)))
    have of_list := (selects.1 (.literal (.int 9)) (-1) (.int 9) rfl rfl).1
      #[.int 1, .int 2, .int 3] (FiniteMap.get?_insert_self ..)
    obtain ⟨changed, ran⟩ := of_list.1.mpr (of_list.2.1.mpr (by decide))
    obtain ⟨⟨updated, bound, -⟩, replaced⟩ := of_list.2.2 changed ran
    have last := replaced.inside 2 (by decide)
    have first := (replaced.outside 0 (by decide)).trans Scope.item_insert_self
    have again := assignItem_selects changed "A" (.literal (.int 2))
    have back := (again.1 _ 2 (.int 9) rfl last).1 updated bound
    obtain ⟨kept, reran⟩ := back.1.mpr ⟨_, last⟩
    have same := again.2.1 kept reran
    rw [same] at reran
    exact ⟨changed, ran, last, first.trans rfl, reran⟩
  · have selects := assignItem_selects (FiniteMap.insert ∅ "A" (.map ∅)) "A"
      (.literal (.int (-1)))
    have of_map := (selects.1 (.literal (.int 9)) (-1) (.int 9) rfl rfl).2.1
    obtain ⟨changed, ran, -, replaced⟩ := of_map _ (FiniteMap.get?_insert_self ..)
    exact ⟨changed, ran, replaced.inside (-1) rfl⟩
  · have selects := assignItem_selects (FiniteMap.insert ∅ "A" (.int 1)) "A" (.literal (.int 0))
    have of_other := (selects.1 (.literal (.int 9)) 0 (.int 9) rfl rfl).2.2
    exact of_other (.int 1) (FiniteMap.get?_insert_self ..) (by decide) (by decide)

end Statement

end UrclDebugger
