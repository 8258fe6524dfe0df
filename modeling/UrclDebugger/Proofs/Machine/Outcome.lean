import UrclDebugger.FiniteMap.Lemmas
import UrclDebugger.Machine.Execute

/-!
# Outcomes of machine computations

A computation of the machine ends with a result or an error and leaves a scope in both cases. This
module says what each building block of a computation ends with, and two properties that pass from
the blocks to what is built from them: `Exec.Ignores`, a variable is neither read nor changed, and
`Exec.Keeps`, an invariant of the scope survives, also a failure, and results have a property.
-/

namespace UrclDebugger

namespace Exec

variable {α β : Type}

/-- What a computation ends with in a scope: its result, and the scope that it leaves. -/
def outcome (computation : Exec α) (scope : Scope) : Except ExecError α × Scope :=
  computation.run.run scope

@[simp] theorem outcome_pure (result : α) (scope : Scope) :
    (pure result : Exec α).outcome scope = (.ok result, scope) := rfl

@[simp] theorem outcome_throw (error : ExecError) (scope : Scope) :
    (throw error : Exec α).outcome scope = (.error error, scope) := rfl

@[simp] theorem outcome_get (scope : Scope) :
    (get : Exec Scope).outcome scope = (.ok scope, scope) := rfl

@[simp] theorem outcome_read (f : Scope → Except ExecError α) (scope : Scope) :
    (read f).outcome scope = (f scope, scope) := rfl

@[simp] theorem outcome_assign (name : String) (value : Value) (scope : Scope) :
    (assign name value).outcome scope = (.ok (), scope.insert name value) := rfl

@[simp] theorem outcome_arithmetic_ok (word : Word) (scope : Scope) :
    (arithmetic (.ok word)).outcome scope = (.ok word, scope) := rfl

@[simp] theorem outcome_arithmetic_error (error : ArithmeticError) (scope : Scope) :
    (arithmetic (.error error)).outcome scope = (.error (.arithmetic error), scope) := rfl

theorem outcome_change_of_none {obstacle : Scope → Option ExecError} {scope : Scope}
    (free : obstacle scope = none) (f : Scope → Scope) :
    (change obstacle f).outcome scope = (.ok (), f scope) := by
  simp only [change, outcome, ExceptT.run_mk, StateT.run, free]

theorem outcome_change_of_some {obstacle : Scope → Option ExecError} {scope : Scope}
    {error : ExecError} (blocked : obstacle scope = some error) (f : Scope → Scope) :
    (change obstacle f).outcome scope = (.error error, scope) := by
  simp only [change, outcome, ExceptT.run_mk, StateT.run, blocked]

/-- After a result the rest runs in the scope that was left; after an error nothing more runs. -/
theorem outcome_bind (computation : Exec α) (rest : α → Exec β) (scope : Scope) :
    (computation >>= rest).outcome scope =
      match computation.outcome scope with
      | (.ok result, left) => (rest result).outcome left
      | (.error error, left) => (.error error, left) := by
  simp only [outcome, ExceptT.run_bind, StateT.run_bind]
  rcases computation.run.run scope with ⟨_ | _, left⟩ <;> rfl

section Ignores

/-- A variable that a computation neither reads nor changes: bound to any value, it is carried
along. -/
def Ignores (name : String) (computation : Exec α) : Prop :=
  ∀ (scope : Scope) (value : Value), computation.outcome (scope.insert name value) =
    ((computation.outcome scope).1, (computation.outcome scope).2.insert name value)

variable {name : String}

theorem ignores_pure (result : α) : Ignores name (pure result : Exec α) := fun _ _ => rfl

theorem ignores_throw (error : ExecError) : Ignores name (throw error : Exec α) := fun _ _ => rfl

theorem ignores_bind {computation : Exec α} {rest : α → Exec β}
    (first : Ignores name computation) (continued : ∀ result, Ignores name (rest result)) :
    Ignores name (computation >>= rest) := by
  intro scope value
  rw [outcome_bind, outcome_bind, first scope value]
  rcases computation.outcome scope with ⟨error | result, left⟩
  · rfl
  · exact continued result left value

theorem ignores_read {f : Scope → Except ExecError α}
    (unread : ∀ (scope : Scope) (value : Value), f (scope.insert name value) = f scope) :
    Ignores name (read f) := by
  intro scope value
  simp only [outcome_read, unread]

theorem ignores_assign {target : String} (different : target ≠ name) (bound : Value) :
    Ignores name (assign target bound) := by
  intro scope value
  simp only [outcome_assign, FiniteMap.insert_comm scope (Ne.symm different)]

theorem ignores_arithmetic (result : Except ArithmeticError Word) :
    Ignores name (arithmetic result) := by
  intro scope value
  cases result <;> rfl

theorem ignores_change {obstacle : Scope → Option ExecError} {f : Scope → Scope}
    (unread : ∀ (scope : Scope) (value : Value),
      obstacle (scope.insert name value) = obstacle scope)
    (carried : ∀ (scope : Scope) (value : Value),
      f (scope.insert name value) = (f scope).insert name value) :
    Ignores name (change obstacle f) := by
  intro scope value
  cases blocked : obstacle scope with
  | none =>
    rw [outcome_change_of_none blocked, outcome_change_of_none (by rw [unread, blocked]), carried]
  | some error =>
    rw [outcome_change_of_some blocked, outcome_change_of_some (by rw [unread, blocked])]

/-- What is ignored keeps its value. -/
theorem Ignores.get? {computation : Exec α} (ignored : Ignores name computation) {scope : Scope}
    {value : Value} (bound : scope.get? name = some value) :
    (computation.outcome scope).2.get? name = some value := by
  have carried := ignored scope value
  rw [FiniteMap.insert_of_get? bound] at carried
  rw [carried, FiniteMap.get?_insert_self]

end Ignores

section Keeps

/-- From a scope with the invariant a computation leaves one with it, whether it fails or not, and
every result has the property. -/
def Keeps (invariant : Scope → Prop) (property : α → Prop) (computation : Exec α) : Prop :=
  ∀ scope, invariant scope → invariant (computation.outcome scope).2 ∧
    ∀ result, (computation.outcome scope).1 = .ok result → property result

variable {invariant : Scope → Prop} {property : α → Prop} {later : β → Prop}

theorem keeps_pure {result : α} (holds : property result) :
    Keeps invariant property (pure result : Exec α) := by
  intro scope held
  refine ⟨held, fun same equal => ?_⟩
  obtain rfl := Except.ok.inj equal
  exact holds

theorem keeps_throw (error : ExecError) :
    Keeps invariant property (throw error : Exec α) :=
  fun _ held => ⟨held, nofun⟩

theorem keeps_bind {computation : Exec α} {rest : α → Exec β}
    (first : Keeps invariant property computation)
    (continued : ∀ result, property result → Keeps invariant later (rest result)) :
    Keeps invariant later (computation >>= rest) := by
  intro scope held
  obtain ⟨kept, holds⟩ := first scope held
  rw [outcome_bind]
  revert kept holds
  rcases computation.outcome scope with ⟨error | result, left⟩
  · exact fun kept _ => ⟨kept, nofun⟩
  · exact fun kept holds => continued result (holds result rfl) left kept

theorem keeps_read {f : Scope → Except ExecError α}
    (holds : ∀ scope, invariant scope → ∀ result, f scope = .ok result → property result) :
    Keeps invariant property (read f) :=
  fun scope held => ⟨held, holds scope held⟩

theorem keeps_assign {name : String} {value : Value}
    (kept : ∀ scope, invariant scope → invariant (scope.insert name value)) :
    Keeps invariant (fun _ => True) (assign name value) :=
  fun scope held => ⟨kept scope held, fun _ _ => trivial⟩

theorem keeps_arithmetic (result : Except ArithmeticError Word) :
    Keeps invariant (fun _ => True) (arithmetic result) := by
  intro scope held
  cases result <;> exact ⟨held, fun _ _ => trivial⟩

theorem keeps_change {obstacle : Scope → Option ExecError} {f : Scope → Scope}
    (kept : ∀ scope, invariant scope → obstacle scope = none → invariant (f scope)) :
    Keeps invariant (fun _ => True) (change obstacle f) := by
  intro scope held
  cases blocked : obstacle scope with
  | none =>
    rw [outcome_change_of_none blocked]
    exact ⟨kept scope held blocked, fun _ _ => trivial⟩
  | some error =>
    rw [outcome_change_of_some blocked]
    exact ⟨held, fun _ _ => trivial⟩

end Keeps

end Exec

end UrclDebugger
