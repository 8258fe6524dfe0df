import UrclDebugger.Proofs.Machine.Refinement

/-!
# A free run is repeated single stepping

A call of the entry routine with the step flag down and steps of the debugger use the same loop in
two ways: the call stays in it and clears the break flag once, each step enters it anew, clears the
break flag every time and leaves after one turn. Along the loop the two scopes differ in the step
flag only. The break flag makes no difference: where it is up the call ends too, and where it is
down clearing it changes nothing.
-/

namespace UrclDebugger

/-- The scope that is left by a number of steps, whatever each of them ends with. -/
def Urcl.afterSteps : Nat → Scope → Scope
  | 0, scope => scope
  | count + 1, scope => afterSteps count (Engine.step scope).2

/-- Of a number of steps all but the last one end well and leave neither the halt flag nor the break
flag set; with the last one they end in this way. -/
structure SingleSteps (count : Nat) (scope : Scope) (ending : Machine.Ending) : Prop where
  earlier : ∀ index, index + 1 < count →
    (Engine.step (Urcl.afterSteps index scope)).1 = .ok () ∧
      (Urcl.afterSteps (index + 1) scope).get? Variable.haltFlag = some (.bool false) ∧
      (Urcl.afterSteps (index + 1) scope).get? Variable.breakFlag = some (.bool false)
  last : (Engine.step (Urcl.afterSteps (count - 1) scope)).1 = ending.1
  left : Urcl.afterSteps count scope = ending.2

section

variable {scope middle : Scope} {ending : Machine.Ending}

theorem SingleSteps.one (stepped : Engine.step scope = ending) : SingleSteps 1 scope ending where
  earlier := fun index early => absurd early (by omega)
  last := congrArg Prod.fst stepped
  left := congrArg Prod.snd stepped

theorem SingleSteps.succ {count : Nat} (stepped : Engine.step scope = (.ok (), middle))
    (halt : middle.get? Variable.haltFlag = some (.bool false))
    (noBreak : middle.get? Variable.breakFlag = some (.bool false))
    (rest : SingleSteps (count + 1) middle ending) : SingleSteps (count + 2) scope ending where
  earlier := by
    have left : (Engine.step scope).2 = middle := congrArg Prod.snd stepped
    intro index early
    cases index with
    | zero =>
      simp only [Urcl.afterSteps, left]
      exact ⟨congrArg Prod.fst stepped, halt, noBreak⟩
    | succ index =>
      have later := rest.earlier index (by omega)
      simp only [Urcl.afterSteps, left] at later ⊢
      exact later
  last := by
    have later := rest.last
    simp only [Nat.add_one_sub_one] at later ⊢
    rw [Urcl.afterSteps, stepped]
    exact later
  left := by
    rw [Urcl.afterSteps, stepped]
    exact rest.left

end

namespace Reference

variable {program : Program} {scope : Scope} {state : State}

/-- What a turn that succeeds leaves represents a state again. -/
theorem Represents.of_turn (accepted : program.Accepted)
    (represents : Represents program scope state) {left : Scope}
    (turned : Machine.turn.outcome scope = (.ok (), left)) :
    ∃ next, Represents program left next := by
  have next := (simulates_turn accepted scope state represents).exists_represents
  rw [turned] at next
  exact next

/-- A turn takes no notice of the step flag. -/
theorem Represents.turn_insert_stepFlag (accepted : program.Accepted)
    (represents : Represents program scope state) (value : Value) :
    Machine.turn.outcome (scope.insert Variable.stepFlag value) =
      ((Machine.turn.outcome scope).1,
        (Machine.turn.outcome scope).2.insert Variable.stepFlag value) :=
  Machine.outcome_turn_insert Machine.foreign_stepFlag (by decide)
    (Fetch.admissible_of_program accepted represents.fixed.loaded) value

/-- From a scope that is like the loop's scope, the two flags apart, a step takes the loop's
turn. -/
theorem step_of_prepared (accepted : program.Accepted)
    (represents : Represents program scope state) {before : Scope} {old : State}
    (representsBefore : Represents program before old)
    (alike : Machine.prepared before = scope.insert Variable.stepFlag (.bool true))
    (running : Machine.halted scope = .ok false) :
    Engine.step before = ((Machine.turn.outcome scope).1,
      (Machine.turn.outcome scope).2.insert Variable.stepFlag (.bool true)) := by
  have unread : Machine.halted (scope.insert Variable.stepFlag (.bool true)) =
      Machine.halted scope := by
    rw [Machine.halted, Scope.require, FiniteMap.get?_insert_of_ne _ _ (by decide)]
    rfl
  rw [representsBefore.step_eq accepted, Machine.singleTurn, alike, unread, running]
  exact represents.turn_insert_stepFlag accepted _

/-- Where the loop goes on, the break flag is down. -/
theorem Represents.noBreak_of_pauses (represents : Represents program scope state)
    (noPause : Machine.pauses scope = false) :
    scope.get? Variable.breakFlag = some (.bool false) := by
  have noBreak : scope.isSet Variable.breakFlag = false := (Bool.or_eq_false_iff.mp noPause).2
  rw [Scope.isSet, represents.paused] at noBreak
  rw [represents.paused]
  exact congrArg (some ∘ Value.bool) noBreak

/-- Where the loop takes a turn, the halt flag is down. -/
theorem Represents.noHalt_of_running (represents : Represents program scope state)
    (running : Machine.halted scope = .ok false) :
    scope.get? Variable.haltFlag = some (.bool false) := by
  rw [represents.halted_eq] at running
  rw [represents.halted, Except.ok.inj running]

/-- With the break flag down and the step flag up, entering the loop changes nothing. -/
theorem prepared_insert_stepFlag (noBreak : scope.get? Variable.breakFlag = some (.bool false)) :
    Machine.prepared (scope.insert Variable.stepFlag (.bool true)) =
      scope.insert Variable.stepFlag (.bool true) := by
  rw [Machine.prepared, FiniteMap.insert_insert, FiniteMap.insert_of_get?]
  rw [FiniteMap.get?_insert_of_ne _ _ (by decide), noBreak]

/-- The turns of the loop are taken by as many steps. By induction on the turns: after each of them
the scopes of the loop and of the steps differ in the step flag only. -/
theorem singleSteps_of_loop (accepted : program.Accepted) {count : Nat} {ending : Machine.Ending}
    (loop : Machine.Loop count scope ending) (positive : 0 < count)
    (represents : Represents program scope state) {before : Scope} {old : State}
    (representsBefore : Represents program before old)
    (alike : Machine.prepared before = scope.insert Variable.stepFlag (.bool true)) :
    SingleSteps count before (ending.1, ending.2.insert Variable.stepFlag (.bool true)) := by
  induction loop generalizing state before old with
  | unreadable => contradiction
  | stopped => contradiction
  | failed running turned =>
    have stepped := step_of_prepared accepted represents representsBefore alike running
    rw [turned] at stepped
    exact .one stepped
  | paused running turned =>
    have stepped := step_of_prepared accepted represents representsBefore alike running
    rw [turned] at stepped
    exact .one stepped
  | again running turned noPause rest ih =>
    rename_i count scope middle ending
    have stepped := step_of_prepared accepted represents representsBefore alike running
    rw [turned] at stepped
    obtain ⟨next, representsMiddle⟩ := represents.of_turn accepted turned
    cases count with
    | zero =>
      cases rest with
      | unreadable unread =>
        rw [representsMiddle.halted_eq] at unread
        contradiction
      | stopped => exact .one stepped
    | succ count =>
      have noBreak := representsMiddle.noBreak_of_pauses noPause
      have noHalt := representsMiddle.noHalt_of_running rest.running
      refine .succ stepped ?_ ?_ (ih (Nat.succ_pos count) representsMiddle
        (representsMiddle.setStepFlag true) (prepared_insert_stepFlag noBreak))
      · rw [FiniteMap.get?_insert_of_ne _ _ (by decide), noHalt]
      · rw [FiniteMap.get?_insert_of_ne _ _ (by decide), noBreak]

/-- A free run of an assembled program is repeated single stepping: a call of the entry routine with
the step flag down that takes some turns ends as that many steps end, which leave the same scope but
for the step flag, and after each step but the last neither flag of the program is up. -/
theorem call_eq_singleSteps {source : Source} (urcl : source.extension? = some "urcl")
    (assembled : Program.assemble source.text = .ok program) (reachable : Reachable source scope)
    {count : Nat} (positive : 1 ≤ count) {result : Except ExecError Unit} {final : Scope}
    (calls : Machine.Calls Variable.entry count
      (scope.insert Variable.stepFlag (.bool false)) (result, final)) :
    (∀ limit, count < limit → (Machine.call limit Variable.entry).outcome
        (scope.insert Variable.stepFlag (.bool false)) = (result, final)) ∧
      SingleSteps count (scope.insert Variable.stepFlag (.bool false))
        (result, final.insert Variable.stepFlag (.bool true)) := by
  refine ⟨fun limit => Machine.outcome_call_of_calls calls, ?_⟩
  obtain ⟨state, represents⟩ := exists_represents urcl assembled reachable
  have lowered := represents.setStepFlag false
  have alike : Machine.prepared (FiniteMap.insert scope Variable.stepFlag (.bool false)) =
      FiniteMap.insert (FiniteMap.insert (FiniteMap.insert scope Variable.stepFlag (.bool false))
        Variable.breakFlag (.bool false)) Variable.stepFlag (.bool true) :=
    FiniteMap.insert_comm _ (by decide) _ _
  cases calls with
  | entry _ loop =>
    exact singleSteps_of_loop (Program.accepted_of_assemble assembled) loop positive
      (lowered.setPaused false) lowered alike
  | noBody => contradiction
  | notCallable => contradiction
  | undefined => contradiction

/-- A program that increments a register and halts. -/
def halting : Program where
  instructions := #[⟨"INC", ["R1", "R1"]⟩, ⟨"HLT", []⟩]

/-- The text of the halting program. -/
def haltingSource : Source := .inline "halting.urcl" "INC R1 R1\nHLT"

/-- The halting program takes two turns, and two steps. -/
theorem call_eq_singleSteps_halting :
    haltingSource.extension? = some "urcl" ∧
      Program.assemble haltingSource.text = .ok halting ∧
      Reachable haltingSource (halting.bind ∅) ∧
      ∃ final, Machine.Calls Variable.entry 2
          ((halting.bind ∅).insert Variable.stepFlag (.bool false)) (.ok (), final) ∧
        SingleSteps 2 ((halting.bind ∅).insert Variable.stepFlag (.bool false))
          (.ok (), final.insert Variable.stepFlag (.bool true)) := by
  have urcl : haltingSource.extension? = some "urcl" := by decide
  have assembled : Program.assemble haltingSource.text = .ok halting := rfl
  have reachable : Reachable haltingSource (halting.bind ∅) :=
    Urcl.scope_load urcl assembled ∅ ▸ .loaded
  have succeeds {scope : Scope} (ok : (Machine.turn.outcome scope).1.isOk = true) :
      Machine.turn.outcome scope = (.ok (), (Machine.turn.outcome scope).2) := by
    generalize Machine.turn.outcome scope = ended at ok ⊢
    rcases ended with ⟨_ | _, left⟩
    · contradiction
    · rfl
  let start := (halting.bind ∅).insert Variable.stepFlag (.bool false)
  let entered := start.insert Variable.breakFlag (.bool false)
  let middle := (Machine.turn.outcome entered).2
  let final := (Machine.turn.outcome middle).2
  have begun : Machine.halted entered = .ok false := Machine.halted_of_get? (by decide +kernel)
  have running : Machine.halted middle = .ok false := Machine.halted_of_get? (by decide +kernel)
  have stopped : Machine.halted final = .ok true := Machine.halted_of_get? (by decide +kernel)
  have second : Machine.Loop 1 middle (.ok (), final) :=
    .again running (succeeds (by decide +kernel)) (by decide +kernel) (.stopped stopped)
  have first : Machine.Loop 2 entered (.ok (), final) :=
    .again begun (succeeds (by decide +kernel)) (by decide +kernel) second
  have calls : Machine.Calls Variable.entry 2 start (.ok (), final) :=
    .entry (by decide +kernel) first
  exact ⟨urcl, assembled, reachable, final, calls,
    (call_eq_singleSteps urcl assembled reachable (by decide) calls).2⟩

end Reference

end UrclDebugger
