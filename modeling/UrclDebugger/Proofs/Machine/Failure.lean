import UrclDebugger.Proofs.Machine.Access

/-!
# What failed instructions leave

Nothing is rolled back when an instruction fails, so what it leaves depends on the order in which it
works. Almost every instruction first reads and checks and then changes the scope once, in a way
that can not fail any more: such a computation is clean, it fails without a trace
(`Machine.clean_perform`). Pushes and calls lower the stack pointer before they store, and a call
stores before it jumps. What they can have spilled when they fail is at most the lowered pointer and
the cell that it points to (`Machine.spilled_of_perform`).
-/

namespace UrclDebugger

namespace Exec

variable {α β : Type} {computation : Exec α} {rest : α → Exec β}

/-- A computation that never changes the scope. -/
def Silent (computation : Exec α) : Prop := ∀ scope, (computation.outcome scope).2 = scope

/-- A computation that ends well in every scope. -/
def Certain (computation : Exec α) : Prop :=
  ∀ scope, ∃ result left, computation.outcome scope = (.ok result, left)

/-- A computation that has changed nothing when it fails. -/
def Clean (computation : Exec α) : Prop :=
  ∀ scope error left, computation.outcome scope = (.error error, left) → left = scope

theorem silent_read (f : Scope → Except ExecError α) : Silent (read f) := fun _ => rfl

theorem silent_throw (error : ExecError) : Silent (throw error : Exec α) := fun _ => rfl

theorem silent_arithmetic (result : Except ArithmeticError Word) : Silent (arithmetic result) := by
  intro scope
  cases result <;> rfl

theorem certain_pure (result : α) : Certain (pure result : Exec α) := fun scope => ⟨_, scope, rfl⟩

theorem certain_assign (name : String) (value : Value) : Certain (assign name value) :=
  fun _ => ⟨_, _, rfl⟩

theorem Silent.clean (silent : Silent computation) : Clean computation := by
  intro scope error left failed
  rw [← silent scope, failed]

theorem Certain.clean (certain : Certain computation) : Clean computation := by
  intro scope error left failed
  obtain ⟨result, other, ended⟩ := certain scope
  rw [ended] at failed
  cases failed

theorem clean_change (obstacle : Scope → Option ExecError) (f : Scope → Scope) :
    Clean (change obstacle f) := by
  intro scope error left failed
  cases blocked : obstacle scope with
  | none =>
    rw [outcome_change_of_none blocked] at failed
    cases failed
  | some _ =>
    rw [outcome_change_of_some blocked] at failed
    exact (congrArg Prod.snd failed).symm

/-- What comes before the first change does not show in a failure. -/
theorem Silent.clean_bind (silent : Silent computation) (continued : ∀ result, Clean (rest result)) :
    Clean (computation >>= rest) := by
  intro scope error left failed
  obtain first | ⟨result, middle, first, last⟩ := failed_part_of_outcome_bind failed
  · exact silent.clean scope error left first
  · obtain rfl : scope = middle := by rw [← silent scope, first]
    exact continued result scope error left last

/-- Changes after which nothing can fail do not show in a failure. -/
theorem Clean.bind_certain (clean : Clean computation)
    (continued : ∀ result, Certain (rest result)) : Clean (computation >>= rest) := by
  intro scope error left failed
  obtain first | ⟨result, middle, _, last⟩ := failed_part_of_outcome_bind failed
  · exact clean scope error left first
  · obtain ⟨_, _, ended⟩ := continued result middle
    rw [ended] at last
    cases last

end Exec

open Exec

namespace Memory

theorem clean_store (address : Word) (value : Value) : Clean (store address value) :=
  clean_change _ _

/-- A pop raises the stack pointer when it has the value. -/
theorem clean_pop : Clean pop := by
  refine (silent_read _).clean_bind fun pointer => ?_
  have rest : Clean (do
      let value ← Exec.read (load · pointer)
      Exec.assign Variable.stackPointer (.int (pointer + 1))
      return value) := by
    refine (silent_read _).clean_bind fun value => ?_
    exact (certain_assign _ _).clean.bind_certain fun _ => certain_pure value
  split
  · exact (silent_throw _).clean_bind fun _ => rest
  · exact rest

/-- What a push has done to a scope when it fails or when what comes after it fails: nothing, or it
has lowered the stack pointer, or it has also stored a value there. -/
inductive Spilled (scope : Scope) : Scope → Prop where
  | nothing : Spilled scope scope
  | lowered {top : Word} (bound : scope.get? Variable.stackPointer = some (.int top))
      (notLeast : top ≠ Int64.minValue) :
      Spilled scope (scope.insert Variable.stackPointer (.int (top - 1)))
  | stored {top : Word} (bound : scope.get? Variable.stackPointer = some (.int top))
      (notLeast : top ≠ Int64.minValue) (value : Value) :
      Spilled scope (write (top - 1) value (scope.insert Variable.stackPointer (.int (top - 1))))

/-- Whether a push fails or not, it spills no more than its value. -/
theorem spilled_of_push {scope left : Scope} {value : Value} {result : Except ExecError Unit}
    (pushed : (push value).outcome scope = (result, left)) : Spilled scope left := by
  cases result with
  | ok _ =>
    obtain ⟨top, bound⟩ := exists_pointer_of_push pushed
    obtain ⟨notLeast, _, rfl⟩ := free_of_push bound pushed
    exact .stored bound notLeast value
  | error error =>
    obtain unread | ⟨top, _, read, checked⟩ := failed_part_of_outcome_bind pushed
    · obtain rfl := (silent_read _).clean _ _ _ unread
      exact .nothing
    obtain ⟨pointer, rfl⟩ := outcome_read_eq_ok_iff.mp read
    have bound := Scope.requireInt_eq_ok_iff.mp pointer
    by_cases least : top = Int64.minValue
    · rw [outcome_push_of_least bound least] at pushed
      obtain rfl := congrArg Prod.snd pushed
      exact .nothing
    · rw [outcome_push bound least] at pushed
      obtain rfl := clean_store _ _ _ _ _ pushed
      exact .lowered bound least

end Memory

/-- Pushes and calls put a word on the stack. -/
def Action.pushes : Action → Bool
  | .push _ | .call _ => true
  | _ => false

namespace Machine

variable {scope left : Scope} {error : ExecError} {action : Action}

theorem silent_operand (text : String) : Silent (operand text) := silent_read _

theorem clean_jump (destination : Word) : Clean (jump destination) :=
  (silent_arithmetic _).clean_bind fun _ => (certain_assign _ _).clean

/-- An action that pushes nothing checks before it changes. -/
theorem clean_perform (pushesNot : action.pushes = false) : Clean (perform action) := by
  have assigns (target : String) (value : Value) : Clean (Exec.assign target value) :=
    (certain_assign target value).clean
  cases action with
  | push _ => contradiction
  | call _ => contradiction
  | idle => exact (certain_pure ()).clean
  | halt => exact assigns _ _
  | pause => exact assigns _ _
  | ret => exact Memory.clean_pop.bind_certain fun _ => certain_assign _ _
  | pop target => exact Memory.clean_pop.bind_certain fun _ => certain_assign _ _
  | jump destination => exact (silent_operand _).clean_bind clean_jump
  | load target address =>
    exact (silent_operand _).clean_bind fun _ => (silent_read _).clean_bind fun _ => assigns _ _
  | store address value =>
    exact (silent_operand _).clean_bind fun _ => (silent_operand _).clean_bind fun _ =>
      Memory.clean_store _ _
  | copy address source =>
    exact (silent_operand _).clean_bind fun _ => (silent_operand _).clean_bind fun _ =>
      (silent_read _).clean_bind fun _ => Memory.clean_store _ _
  | assign target value => exact (silent_operand _).clean_bind fun _ => assigns _ _
  | unary op target value =>
    exact (silent_operand _).clean_bind fun _ => (silent_arithmetic _).clean_bind fun _ =>
      assigns _ _
  | binary op target left right =>
    exact (silent_operand _).clean_bind fun _ => (silent_operand _).clean_bind fun _ =>
      (silent_arithmetic _).clean_bind fun _ => assigns _ _
  | branch test destination left right =>
    refine (silent_operand _).clean_bind fun position => (silent_operand _).clean_bind fun left =>
      (silent_operand _).clean_bind fun right => ?_
    split
    · exact clean_jump position
    · exact (certain_pure ()).clean

/-- An action that fails spills no more than a push does. -/
theorem spilled_of_perform (failed : (perform action).outcome scope = (.error error, left)) :
    Memory.Spilled scope left := by
  have unspilled (clean : left = scope) : Memory.Spilled scope left := clean ▸ .nothing
  cases action with
  | push value =>
    obtain unread | ⟨word, _, read, pushed⟩ := failed_part_of_outcome_bind failed
    · exact unspilled ((silent_operand _).clean _ _ _ unread)
    obtain ⟨_, rfl⟩ := outcome_read_eq_ok_iff.mp read
    exact Memory.spilled_of_push pushed
  | call destination =>
    obtain unread | ⟨position, _, read, pointed⟩ := failed_part_of_outcome_bind failed
    · exact unspilled ((silent_operand _).clean _ _ _ unread)
    obtain ⟨_, rfl⟩ := outcome_read_eq_ok_iff.mp read
    obtain unread | ⟨pointer, _, read, called⟩ := failed_part_of_outcome_bind pointed
    · exact unspilled ((silent_read _).clean _ _ _ unread)
    obtain ⟨_, rfl⟩ := outcome_read_eq_ok_iff.mp read
    obtain unpushed | ⟨_, middle, pushed, jumped⟩ := failed_part_of_outcome_bind called
    · exact Memory.spilled_of_push unpushed
    -- the word is on the stack already when the jump fails
    obtain rfl := clean_jump position _ _ _ jumped
    exact Memory.spilled_of_push pushed
  | _ => exact unspilled (clean_perform rfl _ _ _ failed)

end Machine

end UrclDebugger
