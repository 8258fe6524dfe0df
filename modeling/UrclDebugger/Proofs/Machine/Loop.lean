import UrclDebugger.Proofs.Machine.Effects
import UrclDebugger.Urcl

/-!
# Runs counted in turns

The loop of the entry routine is described without a limit by a relation that counts its turns:
`Machine.Loop n scope outcome` holds when the loop entered in `scope` takes `n` turns and ends with
`outcome`. The relation is deterministic and agrees with the limited run, which gives the same
outcome whenever its limit is large enough (`Machine.outcome_turns_of_loop`) and is otherwise cut
short (`Machine.exists_loop_of_outcome_turns`). Calls and debugger steps are counted by the turns
of the loop that they enter.
-/

namespace UrclDebugger

namespace Machine

/-- What a run ends with: success or an error, and the scope that is left. -/
abbrev Ending : Type := Except ExecError Unit × Scope

/-- The loop reads the halt flag by its name. -/
theorem halted_of_get? {scope : Scope} {flag : Bool}
    (bound : scope.get? Variable.haltFlag = some (.bool flag)) : halted scope = .ok flag := by
  rw [halted, Scope.require, bound]
  rfl

/-- The loop of the entry routine takes a number of turns from a scope and ends. -/
inductive Loop : Nat → Scope → Ending → Prop where
  | unreadable {scope : Scope} {error : ExecError} (unread : halted scope = .error error) :
      Loop 0 scope (.error error, scope)
  | stopped {scope : Scope} (halt : halted scope = .ok true) : Loop 0 scope (.ok (), scope)
  | failed {scope left : Scope} {error : ExecError} (running : halted scope = .ok false)
      (turned : turn.outcome scope = (.error error, left)) : Loop 1 scope (.error error, left)
  | paused {scope left : Scope} (running : halted scope = .ok false)
      (turned : turn.outcome scope = (.ok (), left)) (pause : pauses left = true) :
      Loop 1 scope (.ok (), left)
  | again {count : Nat} {scope middle : Scope} {ending : Ending}
      (running : halted scope = .ok false) (turned : turn.outcome scope = (.ok (), middle))
      (noPause : pauses middle = false) (rest : Loop count middle ending) :
      Loop (count + 1) scope ending

/-- One round of the limited loop. -/
theorem outcome_turns_succ (limit : Nat) (scope : Scope) :
    (turns (limit + 1)).outcome scope =
      match halted scope with
      | .error error => (.error error, scope)
      | .ok true => (.ok (), scope)
      | .ok false =>
        match turn.outcome scope with
        | (.error error, left) => (.error error, left)
        | (.ok (), left) => if pauses left then (.ok (), left) else (turns limit).outcome left := by
  rw [turns, Exec.outcome_bind, Exec.outcome_read]
  rcases halted scope with error | _ | _
  · rfl
  · show (turn >>= _).outcome scope = _
    rw [Exec.outcome_bind]
    rcases turn.outcome scope with ⟨error | result, left⟩
    · rfl
    · show (Exec.read _ >>= _).outcome left = if pauses left then (.ok (), left) else _
      rw [Exec.outcome_bind, Exec.outcome_read]
      cases pauses left <;> rfl
  · rfl

/-- A limit above the number of turns does not show. -/
theorem outcome_turns_of_loop {count limit : Nat} {scope : Scope} {ending : Ending}
    (loop : Loop count scope ending) (enough : count < limit) :
    (turns limit).outcome scope = ending := by
  induction loop generalizing limit with
  | unreadable unread =>
    obtain ⟨limit, rfl⟩ := Nat.exists_eq_add_one_of_ne_zero (Nat.ne_zero_of_lt enough)
    rw [outcome_turns_succ, unread]
  | stopped halt =>
    obtain ⟨limit, rfl⟩ := Nat.exists_eq_add_one_of_ne_zero (Nat.ne_zero_of_lt enough)
    rw [outcome_turns_succ, halt]
  | failed running turned =>
    obtain ⟨limit, rfl⟩ := Nat.exists_eq_add_one_of_ne_zero (Nat.ne_zero_of_lt enough)
    simp only [outcome_turns_succ, running, turned]
  | paused running turned pause =>
    obtain ⟨limit, rfl⟩ := Nat.exists_eq_add_one_of_ne_zero (Nat.ne_zero_of_lt enough)
    simp only [outcome_turns_succ, running, turned, pause, ↓reduceIte]
  | again running turned noPause _ ih =>
    obtain ⟨limit, rfl⟩ := Nat.exists_eq_add_one_of_ne_zero (Nat.ne_zero_of_lt enough)
    simp only [outcome_turns_succ, running, turned, noPause, Bool.false_eq_true, ↓reduceIte]
    exact ih (Nat.lt_of_succ_lt_succ enough)

/-- A limited run that is not cut short is a run of the loop. -/
theorem exists_loop_of_outcome_turns {limit : Nat} {scope : Scope} {ending : Ending}
    (ran : (turns limit).outcome scope = ending) (whole : ending.1 ≠ .error .unfinished) :
    ∃ count, count ≤ limit ∧ Loop count scope ending := by
  induction limit generalizing scope with
  | zero =>
    subst ran
    exact absurd rfl whole
  | succ limit ih =>
    rw [outcome_turns_succ] at ran
    rcases flag : halted scope with error | _ | _
    · rw [flag] at ran
      exact ⟨0, Nat.zero_le _, ran ▸ .unreadable flag⟩
    · rcases turned : turn.outcome scope with ⟨error | result, left⟩
      · simp only [flag, turned] at ran
        exact ⟨1, Nat.le_add_left 1 limit, ran ▸ .failed flag turned⟩
      · simp only [flag, turned] at ran
        cases pause : pauses left with
        | true =>
          rw [pause, if_pos rfl] at ran
          exact ⟨1, Nat.le_add_left 1 limit, ran ▸ .paused flag turned pause⟩
        | false =>
          rw [pause, if_neg Bool.false_ne_true] at ran
          obtain ⟨count, bounded, loop⟩ := ih ran
          exact ⟨count + 1, Nat.succ_le_succ bounded, .again flag turned pause loop⟩
    · rw [flag] at ran
      exact ⟨0, Nat.zero_le _, ran ▸ .stopped flag⟩

/-- The loop ends in one way only, after one number of turns. -/
theorem Loop.unique {first second : Nat} {scope : Scope} {one other : Ending}
    (loop : Loop first scope one) (repeated : Loop second scope other) :
    first = second ∧ one = other := by
  induction loop generalizing second with
  | unreadable unread => cases repeated <;> simp_all
  | stopped halt => cases repeated <;> simp_all
  | failed running turned => cases repeated <;> simp_all
  | paused running turned pause => cases repeated <;> simp_all
  | again running turned noPause _ ih =>
    cases repeated with
    | again _ turnedAgain _ rest =>
      rw [turned] at turnedAgain
      obtain ⟨_, rfl⟩ := Prod.mk.inj turnedAgain
      obtain ⟨sameCount, sameEnding⟩ := ih rest
      exact ⟨congrArg (· + 1) sameCount, sameEnding⟩
    | _ => simp_all

/-- A loop that takes a turn has not been stopped. -/
theorem Loop.running {count : Nat} {scope : Scope} {ending : Ending}
    (loop : Loop (count + 1) scope ending) : halted scope = .ok false := by
  cases loop with
  | failed running _ => exact running
  | paused running _ _ => exact running
  | again running _ _ _ => exact running

/-- A call of the routine that a variable holds takes a number of turns and ends. -/
inductive Calls (name : String) : Nat → Scope → Ending → Prop where
  | entry {count : Nat} {scope : Scope} {ending : Ending}
      (bound : scope.get? name = some (.routine Variable.entry))
      (loop : Loop count (scope.insert Variable.breakFlag (.bool false)) ending) :
      Calls name count scope ending
  | noBody {scope : Scope} {routine : String} (bound : scope.get? name = some (.routine routine))
      (other : routine ≠ Variable.entry) : Calls name 0 scope (.error (.noBody name), scope)
  | notCallable {scope : Scope} {value : Value} (bound : scope.get? name = some value)
      (other : value.kind ≠ .routine) :
      Calls name 0 scope (.error (.notCallable value.kind), scope)
  | undefined {scope : Scope} (unbound : scope.get? name = none) :
      Calls name 0 scope (.error (.undefined name), scope)

theorem outcome_call (limit : Nat) (name : String) (scope : Scope) :
    (call limit name).outcome scope =
      match scope.get? name with
      | some (.routine routine) =>
        if routine = Variable.entry then (execute limit).outcome scope
        else (.error (.noBody name), scope)
      | some other => (.error (.notCallable other.kind), scope)
      | none => (.error (.undefined name), scope) := by
  rw [call, Exec.outcome_bind, Exec.outcome_get]
  show (match scope.get? name with
    | some (.routine routine) => _
    | some other => _
    | none => _ : Exec Unit).outcome scope = _
  rcases scope.get? name with _ | value
  · rfl
  · cases value with
    | routine routine =>
      show (if routine = Variable.entry then execute limit else throw (.noBody name)).outcome
        scope = if routine = Variable.entry then (execute limit).outcome scope else _
      split <;> rfl
    | _ => rfl

/-- A call that takes fewer turns than the limit ends as if there were none. -/
theorem outcome_call_of_calls {name : String} {count limit : Nat} {scope : Scope} {ending : Ending}
    (calls : Calls name count scope ending) (enough : count < limit) :
    (call limit name).outcome scope = ending := by
  rw [outcome_call]
  cases calls with
  | entry bound loop =>
    simp only [bound, ↓reduceIte]
    exact outcome_turns_of_loop loop enough
  | noBody bound other => simp only [bound, if_neg other]
  | notCallable bound other =>
    rename_i value
    rw [bound]
    cases value <;> first | exact absurd rfl other | rfl
  | undefined unbound => rw [unbound]

/-- A call whose result is not for want of turns is a call without a limit. -/
theorem exists_calls_of_outcome_call {name : String} {limit : Nat} {scope : Scope} {ending : Ending}
    (called : (call limit name).outcome scope = ending) (whole : ending.1 ≠ .error .unfinished) :
    ∃ count, count ≤ limit ∧ Calls name count scope ending := by
  rw [outcome_call] at called
  rcases bound : scope.get? name with _ | value
  · rw [bound] at called
    exact ⟨0, Nat.zero_le _, called ▸ .undefined bound⟩
  · rw [bound] at called
    cases value with
    | routine routine =>
      by_cases isEntry : routine = Variable.entry
      · simp only [isEntry, ↓reduceIte] at called
        obtain ⟨count, bounded, loop⟩ := exists_loop_of_outcome_turns called whole
        exact ⟨count, bounded, .entry (isEntry ▸ bound) loop⟩
      · simp only [if_neg isEntry] at called
        exact ⟨0, Nat.zero_le _, called ▸ .noBody bound isEntry⟩
    | _ => exact ⟨0, Nat.zero_le _, called ▸ .notCallable bound nofun⟩

theorem Calls.unique {name : String} {first second : Nat} {scope : Scope} {one other : Ending}
    (calls : Calls name first scope one) (repeated : Calls name second scope other) :
    first = second ∧ one = other := by
  cases calls with
  | entry bound loop =>
    cases repeated with
    | entry _ again => exact loop.unique again
    | _ => grind [Value.kind]
  | noBody bound _ => cases repeated <;> grind [Value.kind]
  | notCallable bound _ => cases repeated <;> grind [Value.kind]
  | undefined unbound => cases repeated <;> grind

/-- A step of the debugger takes a number of turns and ends. -/
def Steps (count : Nat) (scope : Scope) (ending : Ending) : Prop :=
  Calls Variable.entry count (scope.insert Variable.stepFlag (.bool true)) ending

/-- A step that takes fewer turns than the engine's limit ends as if there were none. -/
theorem step_of_steps {count : Nat} {scope : Scope} {ending : Ending}
    (steps : Steps count scope ending) (enough : count < Urcl.turnLimit) :
    Engine.step scope = ending :=
  outcome_call_of_calls steps enough

/-- The scope in which a step enters the loop. -/
def prepared (scope : Scope) : Scope :=
  (scope.insert Variable.stepFlag (.bool true)).insert Variable.breakFlag (.bool false)

/-- The flags of a step are two variables among others. -/
theorem get?_prepared {scope : Scope} {name : String} (noStep : name ≠ Variable.stepFlag)
    (noBreak : name ≠ Variable.breakFlag) : (prepared scope).get? name = scope.get? name := by
  rw [prepared, FiniteMap.get?_insert_of_ne _ _ noBreak, FiniteMap.get?_insert_of_ne _ _ noStep]

theorem get?_stepFlag_prepared (scope : Scope) :
    (prepared scope).get? Variable.stepFlag = some (.bool true) := by
  rw [prepared, FiniteMap.get?_insert_of_ne _ _ (by decide), FiniteMap.get?_insert_self]

theorem halted_eq_halted {one other : Scope}
    (same : one.get? Variable.haltFlag = other.get? Variable.haltFlag) :
    halted one = halted other := by
  rw [halted, halted, Scope.require, Scope.require, same]

theorem fetch_eq_fetch {one other : Scope}
    (same : one.get? Variable.program = other.get? Variable.program) (position : Word) :
    Fetch.action one position = Fetch.action other position := by
  rw [Fetch.action, Fetch.action, Fetch.entry, Fetch.entry, same]

/-- What a step ends with that takes at most one turn. -/
def singleTurn (scope : Scope) : Ending :=
  match halted (prepared scope) with
  | .error error => (.error error, prepared scope)
  | .ok true => (.ok (), prepared scope)
  | .ok false => turn.outcome (prepared scope)

/-- The step flag is not the entry routine. -/
theorem entry_of_stepping {scope : Scope}
    (entry : scope.get? Variable.entry = some (.routine Variable.entry)) :
    (scope.insert Variable.stepFlag (.bool true)).get? Variable.entry =
      some (.routine Variable.entry) := by
  rw [FiniteMap.get?_insert_of_ne _ _ (by decide), entry]

/-- Where the turn leaves the step flag set, the step ends with it. -/
theorem steps_singleTurn {scope : Scope}
    (entry : scope.get? Variable.entry = some (.routine Variable.entry))
    (flagged : ∀ left, turn.outcome (prepared scope) = (.ok (), left) →
      left.get? Variable.stepFlag = some (.bool true)) :
    ∃ count, count ≤ 1 ∧ Steps count scope (singleTurn scope) := by
  have bound := entry_of_stepping entry
  unfold singleTurn
  rcases flag : halted (prepared scope) with error | _ | _
  · exact ⟨0, Nat.zero_le 1, .entry bound (.unreadable flag)⟩
  · rcases turned : turn.outcome (prepared scope) with ⟨error | _, left⟩
    · exact ⟨1, Nat.le_refl 1, .entry bound (.failed flag turned)⟩
    · have pause : pauses left = true := by
        simp [pauses, Scope.isSet, flagged left turned, Value.isTruthy]
      exact ⟨1, Nat.le_refl 1, .entry bound (.paused flag turned pause)⟩
  · exact ⟨0, Nat.zero_le 1, .entry bound (.stopped flag)⟩

end Machine

end UrclDebugger
