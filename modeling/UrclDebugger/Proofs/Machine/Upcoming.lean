import UrclDebugger.Proofs.Machine.Access
import UrclDebugger.Proofs.Provenance.Session

/-!
# The instruction of the next step

In a scope of a session a step performs one instruction, the one at the instruction pointer, as long
as the entry routine is bound and the program has not halted (`Machine.step_of_upcoming`). A step
without an instruction to perform fails, or the program has halted and nothing but the flags of the
step is written.
-/

namespace UrclDebugger.Machine

/-- The instruction that the next step performs, and its position. -/
def upcoming? (scope : Scope) : Option (Word × Action) :=
  if scope.get? Variable.entry = some (.routine Variable.entry) ∧
      (halted scope).toOption = some false then
    (scope.requireInt Variable.instructionPointer).toOption.bind fun pointer =>
      (Fetch.action scope pointer).toOption.map fun action => (pointer, action)
  else none

section

variable {scope : Scope} {pointer : Word} {action : Action}

theorem toOption_eq_some_iff {ε α : Type} {outcome : Except ε α} {result : α} :
    outcome.toOption = some result ↔ outcome = .ok result := by
  cases outcome <;> simp [Except.toOption]

theorem eq_of_fst_eq_ok {ending : Ending} (succeeds : ending.1 = .ok ()) :
    ending = (.ok (), ending.2) := Prod.ext succeeds rfl

/-- What it takes for an instruction to come next. -/
theorem upcoming?_eq_some_iff : upcoming? scope = some (pointer, action) ↔
    scope.get? Variable.entry = some (.routine Variable.entry) ∧ halted scope = .ok false ∧
      scope.get? Variable.instructionPointer = some (.int pointer) ∧
      Fetch.action scope pointer = .ok action := by
  simp only [upcoming?, Option.ite_none_right_eq_some, Option.bind_eq_some_iff,
    Option.map_eq_some_iff, toOption_eq_some_iff, Scope.requireInt_eq_ok_iff, Prod.mk.injEq]
  constructor
  · rintro ⟨⟨entry, running⟩, _, bound, _, fetched, rfl, rfl⟩
    exact ⟨entry, running, bound, fetched⟩
  · rintro ⟨entry, running, bound, fetched⟩
    exact ⟨⟨entry, running⟩, pointer, bound, action, fetched, rfl, rfl⟩

/-- The flags of a step do not tell what comes next. -/
theorem upcoming?_prepared (scope : Scope) : upcoming? (prepared scope) = upcoming? scope := by
  have entry : (prepared scope).get? Variable.entry = scope.get? Variable.entry :=
    get?_prepared (by decide) (by decide)
  have running : halted (prepared scope) = halted scope :=
    halted_eq_halted (get?_prepared (by decide) (by decide))
  have pointer : (prepared scope).requireInt Variable.instructionPointer =
      scope.requireInt Variable.instructionPointer := by
    rw [Scope.requireInt, Scope.requireInt, get?_prepared (by decide) (by decide)]
  have fetched (position : Word) : Fetch.action (prepared scope) position =
      Fetch.action scope position :=
    fetch_eq_fetch (get?_prepared (by decide) (by decide)) position
  simp only [upcoming?, entry, running, pointer, fetched]

/-- The flags of a step are no operands. -/
theorem operand_prepared (scope : Scope) (text : String) :
    Operand.value (prepared scope) text = Operand.value scope text := by
  have kept {name : String} (notStep : name ≠ Variable.stepFlag)
      (notBreak : name ≠ Variable.breakFlag) :
      (prepared scope).requireInt name = scope.requireInt name := by
    rw [Scope.requireInt, Scope.requireInt, get?_prepared notStep notBreak]
  have label {own : String} (listed : own ∈ Variable.own) : Operand.labelVariable text ≠ own :=
    Operand.labelVariable_ne_of_mem_own listed text
  unfold Operand.value
  split
  · rfl
  · split
    · rename_i isRegister
      have register {own : String} (listed : own ∈ Variable.own) : text ≠ own :=
        Variable.ne_of_not_mem_own (Operand.not_mem_own_of_isRegister isRegister) listed
      exact kept (register (by decide)) (register (by decide))
    · split
      · exact kept (label (by decide)) (label (by decide))
      · rfl

/-- Where the entry routine is bound, a step of a session is a single turn. -/
theorem step_eq_singleTurn (held : scope.Genuine)
    (entry : scope.get? Variable.entry = some (.routine Variable.entry)) :
    Engine.step scope = singleTurn scope := by
  obtain ⟨count, single, steps⟩ :=
    steps_singleTurn entry fun _ turned => stepFlag_of_turn held turned
  exact step_of_steps steps (Nat.lt_of_le_of_lt single (by decide))

/-- A step sets its flags, performs the instruction that comes next and moves on. -/
theorem step_of_upcoming (held : scope.Genuine) (next : upcoming? scope = some (pointer, action)) :
    Engine.step scope = (do perform action; moveOn).outcome (prepared scope) := by
  obtain ⟨entry, running, bound, fetched⟩ := upcoming?_eq_some_iff.mp next
  have goes : halted (prepared scope) = .ok false :=
    (halted_eq_halted (get?_prepared (by decide) (by decide))).trans running
  have here : (prepared scope).requireInt Variable.instructionPointer = .ok pointer :=
    Scope.requireInt_eq_ok_iff.mpr ((get?_prepared (by decide) (by decide)).trans bound)
  have taken : Fetch.action (prepared scope) pointer = .ok action :=
    (fetch_eq_fetch (get?_prepared (by decide) (by decide)) pointer).trans fetched
  rw [step_eq_singleTurn held entry, singleTurn, goes, turn_eq]
  exact (Exec.outcome_bind_of_ok (Exec.outcome_read_of_ok here)).trans
    (Exec.outcome_bind_of_ok (Exec.outcome_read_of_ok taken))

section Next

variable (held : scope.Genuine) (next : upcoming? scope = some (pointer, action)) {left : Scope}

include held next

/-- An instruction that ends well is followed by the one behind the instruction pointer. -/
theorem step_of_performed {place : Word}
    (performed : (perform action).outcome (prepared scope) = (.ok (), left))
    (bound : left.get? Variable.instructionPointer = some (.int place)) :
    Engine.step scope =
      (.ok (), left.insert Variable.instructionPointer (.int (place + 1))) := by
  rw [step_of_upcoming held next, Exec.outcome_bind_of_ok performed, outcome_moveOn bound]

/-- The register that the instruction of a session assigns is none of the machine's own
variables. -/
theorem target_not_mem_own {target : String} (assigned : target ∈ action.target?) :
    target ∉ Variable.own := by
  obtain ⟨_, _, _, fetched⟩ := upcoming?_eq_some_iff.mp next
  have admissible : action.Admissible := Fetch.admissible_of_genuine held fetched
  exact Operand.not_mem_own_of_isRegister
    (Instruction.isAssignable_iff.mp (admissible target assigned)).1

/-- A step fails as its instruction does. -/
theorem step_of_failed {error : ExecError}
    (failed : (perform action).outcome (prepared scope) = (.error error, left)) :
    Engine.step scope = (.error error, left) := by
  rw [step_of_upcoming held next, Exec.outcome_bind_of_error failed]

/-- The instruction of a step that ends well ends well. -/
theorem performed_of_step (succeeds : (Engine.step scope).1 = .ok ()) :
    ∃ left place, (perform action).outcome (prepared scope) = (.ok (), left) ∧
      left.get? Variable.instructionPointer = some (.int place) ∧
      Engine.step scope =
        (.ok (), left.insert Variable.instructionPointer (.int (place + 1))) := by
  have stepped := eq_of_fst_eq_ok succeeds
  rw [step_of_upcoming held next] at stepped
  obtain ⟨_, left, performed, moved⟩ := Exec.exists_of_outcome_bind stepped
  obtain ⟨place, middle, read, _⟩ := Exec.exists_of_outcome_bind moved
  obtain ⟨bound, -⟩ := Exec.outcome_read_eq_ok_iff.mp read
  have there := Scope.requireInt_eq_ok_iff.mp bound
  exact ⟨left, place, performed, there, step_of_performed held next performed there⟩

end Next

/-- Only the entry routine can be stepped. -/
theorem entry_of_step (succeeds : (Engine.step scope).1 = .ok ()) :
    scope.get? Variable.entry = some (.routine Variable.entry) := by
  have called : Engine.step scope = (call Urcl.turnLimit Variable.entry).outcome
      (scope.insert Variable.stepFlag (.bool true)) := rfl
  rw [called, outcome_call, FiniteMap.get?_insert_of_ne _ _ (by decide)] at succeeds
  split at succeeds
  · rename_i routine bound
    split at succeeds
    · rename_i isEntry
      rw [bound, isEntry]
    · cases succeeds
  · cases succeeds
  · cases succeeds

/-- A step that ends well performs an instruction, or the program has halted. -/
theorem upcoming_or_halted_of_step (held : scope.Genuine)
    (succeeds : (Engine.step scope).1 = .ok ()) :
    (∃ pointer action, upcoming? scope = some (pointer, action)) ∨
      upcoming? scope = none ∧ Engine.step scope = (.ok (), prepared scope) := by
  have entry := entry_of_step succeeds
  have same : halted (prepared scope) = halted scope :=
    halted_eq_halted (get?_prepared (by decide) (by decide))
  rw [step_eq_singleTurn held entry, singleTurn, same] at succeeds ⊢
  cases flag : halted scope with
  | error error =>
    rw [flag] at succeeds
    cases succeeds
  | ok stopped =>
    cases stopped with
    | true =>
      refine .inr ⟨?_, rfl⟩
      rw [upcoming?, flag]
      simp [Except.toOption]
    | false =>
      rw [flag] at succeeds
      have turned := eq_of_fst_eq_ok succeeds
      rw [turn_eq] at turned
      obtain ⟨pointer, _, read, continued⟩ := Exec.exists_of_outcome_bind turned
      obtain ⟨here, rfl⟩ := Exec.outcome_read_eq_ok_iff.mp read
      obtain ⟨action, _, taken, _⟩ := Exec.exists_of_outcome_bind continued
      obtain ⟨fetched, _⟩ := Exec.outcome_read_eq_ok_iff.mp taken
      refine .inl ⟨pointer, action, upcoming?_eq_some_iff.mpr ⟨entry, flag, ?_, ?_⟩⟩
      · rw [← Scope.requireInt_eq_ok_iff.mp here, get?_prepared (by decide) (by decide)]
      · exact (fetch_eq_fetch (get?_prepared (by decide) (by decide)) pointer).symm.trans fetched

end

end UrclDebugger.Machine
