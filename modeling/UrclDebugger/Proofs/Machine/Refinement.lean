import UrclDebugger.Proofs.Machine.Loop
import UrclDebugger.Proofs.Machine.Simulation

/-!
# Steps of an assembled program

A program is loaded into a fresh scope and steps are taken, whether they succeed or fail. Every
scope that is reached represents a state of the reference machine, and a step from it is a step of
the reference machine.
-/

namespace UrclDebugger

/-- The scopes that are reached when a source is loaded into a fresh scope and steps are taken. A
step counts whether it succeeds or fails. -/
inductive Reachable (source : Source) : Scope → Prop where
  | loaded : Reachable source (Engine.load (Engine.fresh : Scope) source).scope
  | stepped {scope : Scope} (reachable : Reachable source scope) :
      Reachable source (Engine.step scope).2

/-- A source that holds an accepted program binds that program. -/
theorem Urcl.scope_load {source : Source} {program : Program}
    (urcl : source.extension? = some "urcl")
    (assembled : Program.assemble source.text = .ok program) (scope : Scope) :
    (Engine.load scope source).scope = program.bind scope := by
  show (Urcl.load scope source).scope = program.bind scope
  simp only [Urcl.load, urcl, assembled]

/-- A program that counts in a register and hands the count on over the stack. -/
def counter : Program where
  instructions :=
    #[⟨"INC", ["R1", "R1"]⟩, ⟨"PSH", ["R1"]⟩, ⟨"POP", ["R2"]⟩, ⟨"JMP", [".again"]⟩]
  labels := #[(".again", 0)]

/-- The text of the counting program. -/
def counterSource : Source :=
  .inline "counter.urcl" ".again\nINC R1 R1\nPSH R1\nPOP R2\nJMP .again"

namespace Reference

variable {program : Program} {scope : Scope} {state : State}

/-- How a step of the debugger and one of the reference machine end alike. A failed step leaves a
scope that represents some state, which the reference machine does not give, and what made it fail
is a fault of the program. -/
inductive StepAgrees (program : Program) : Machine.Ending → Except ExecError State → Prop where
  | ok {left : Scope} {next : State} (represents : Represents program left next) :
      StepAgrees program (.ok (), left) (.ok next)
  | error {error : ExecError} {left : Scope} (fault : Fault program error) (state : State)
      (represents : Represents program left state) :
      StepAgrees program (.error error, left) (.error error)

/-- Every step leaves a scope that represents a state. -/
theorem StepAgrees.exists_represents {ending : Machine.Ending} {other : Except ExecError State}
    (agrees : StepAgrees program ending other) : ∃ state, Represents program ending.2 state := by
  cases agrees with
  | ok represents => exact ⟨_, represents⟩
  | error _ state represents => exact ⟨state, represents⟩

/-- A step that fails does so with a fault of the program. -/
theorem StepAgrees.fault {ending : Machine.Ending} {other : Except ExecError State}
    (agrees : StepAgrees program ending other) {error : ExecError}
    (failed : ending.1 = .error error) : Fault program error := by
  cases agrees with
  | ok => contradiction
  | error fault =>
    obtain rfl := Except.error.inj failed
    exact fault

/-- A step enters the loop with the pause over. -/
theorem Represents.prepared (represents : Represents program scope state) :
    Represents program (Machine.prepared scope) { state with paused := false } :=
  (represents.setStepFlag true).setPaused false

/-- The loop reads the halt flag of the state. -/
theorem Represents.halted_eq (represents : Represents program scope state) :
    Machine.halted scope = .ok state.halted := Machine.halted_of_get? represents.halted

/-- The step flag is neither a register nor part of the machine's state. -/
theorem Unchanged.stepFlag {before after : Scope} (unchanged : Unchanged program before after) :
    after.get? Variable.stepFlag = before.get? Variable.stepFlag :=
  unchanged Variable.stepFlag
    (fun member => Program.ne_of_mem_registers member (by decide) rfl) (by decide)

/-- A step changes mutable variables only, and it sets the step flag. -/
theorem unchanged_prepared {name : String} (immutable : ¬ Mutable program name) :
    (Machine.prepared scope).get? name = scope.get? name := by
  have differs {other : String} (member : other ∈ Variable.stepFlag :: Machine.stateVariables) :
      name ≠ other := by
    rintro rfl
    exact immutable (.inr member)
  exact Machine.get?_prepared (differs (by decide)) (differs (by decide))

/-- The one turn of a step leaves the step flag set, so the step ends with it. -/
theorem Represents.steps (accepted : program.Accepted)
    (represents : Represents program scope state) :
    ∃ count, count ≤ 1 ∧ Machine.Steps count scope (Machine.singleTurn scope) := by
  refine Machine.steps_singleTurn represents.fixed.entry fun left turned => ?_
  have unchanged := (simulates_turn accepted _ _ represents.prepared).unchanged
  rw [turned] at unchanged
  rw [unchanged.stepFlag, Machine.get?_stepFlag_prepared]

theorem Represents.step_eq (accepted : program.Accepted)
    (represents : Represents program scope state) :
    Engine.step scope = Machine.singleTurn scope := by
  obtain ⟨count, single, steps⟩ := represents.steps accepted
  exact Machine.step_of_steps steps (Nat.lt_of_le_of_lt single (by decide))

/-- A halted program is not run; only the two flags that every step writes are written. -/
theorem Represents.step_of_halted (accepted : program.Accepted)
    (represents : Represents program scope state) (halted : state.halted = true) :
    Engine.step scope = (.ok (), Machine.prepared scope) := by
  rw [represents.step_eq accepted, Machine.singleTurn, represents.prepared.halted_eq, halted]

/-- A program that has not halted takes one turn. -/
theorem Represents.step_of_running (accepted : program.Accepted)
    (represents : Represents program scope state) (running : state.halted = false) :
    Engine.step scope = Machine.turn.outcome (Machine.prepared scope) := by
  rw [represents.step_eq accepted, Machine.singleTurn, represents.prepared.halted_eq, running]

/-- A step of the debugger is a step of the reference machine. -/
theorem Represents.step_agrees (accepted : program.Accepted)
    (represents : Represents program scope state) :
    StepAgrees program (Engine.step scope) (step program state) := by
  cases halt : state.halted with
  | true =>
    rw [represents.step_of_halted accepted halt, step, if_pos halt]
    exact .ok represents.prepared
  | false =>
    rw [represents.step_of_running accepted halt, step, if_neg (halt ▸ Bool.false_ne_true)]
    have agrees := simulates_turn accepted _ _ represents.prepared
    generalize Machine.turn.outcome (Machine.prepared scope) = ended at agrees ⊢
    generalize (turn program).run _ = other at agrees ⊢
    cases agrees with
    | ok represents _ => exact .ok represents
    | error fault state represents _ => exact .error fault state represents

/-- A step leaves every variable that is not mutable and sets the step flag. -/
theorem Represents.unchanged_step (accepted : program.Accepted)
    (represents : Represents program scope state) :
    Unchanged program (Machine.prepared scope) (Engine.step scope).2 := by
  cases halt : state.halted with
  | true =>
    rw [represents.step_of_halted accepted halt]
    exact .refl
  | false =>
    rw [represents.step_of_running accepted halt]
    exact (simulates_turn accepted _ _ represents.prepared).unchanged

theorem Represents.get?_step (accepted : program.Accepted)
    (represents : Represents program scope state) {name : String}
    (immutable : ¬ Mutable program name) : (Engine.step scope).2.get? name = scope.get? name := by
  rw [represents.unchanged_step accepted name (fun register => immutable (.inl register))
    fun member => immutable (.inr (List.mem_cons_of_mem _ member)), unchanged_prepared immutable]

theorem Represents.stepFlag_step (accepted : program.Accepted)
    (represents : Represents program scope state) :
    (Engine.step scope).2.get? Variable.stepFlag = some (.bool true) := by
  rw [(represents.unchanged_step accepted).stepFlag, Machine.get?_stepFlag_prepared]

/-- Every reachable scope represents a state. -/
theorem exists_represents {source : Source} (urcl : source.extension? = some "urcl")
    (assembled : Program.assemble source.text = .ok program) (reachable : Reachable source scope) :
    ∃ state, Represents program scope state := by
  induction reachable with
  | loaded =>
    rw [Urcl.scope_load urcl assembled]
    exact ⟨State.initial, represents_bind program⟩
  | stepped _ ih =>
    obtain ⟨state, represents⟩ := ih
    have agrees := represents.step_agrees (Program.accepted_of_assemble assembled)
    exact agrees.exists_represents

/-- The steps of an assembled program are the steps of the reference machine: every reachable scope
represents a state, and from each state that it represents a step gives what the reference machine
gives, the next state or the same error. When the program has halted, nothing is written but the
two flags that every step writes; in any case a step sets the step flag and leaves all variables
that are neither registers nor part of the machine's state. -/
theorem step_refines_reference {source : Source} (urcl : source.extension? = some "urcl")
    (assembled : Program.assemble source.text = .ok program) (reachable : Reachable source scope) :
    (∃ state, Represents program scope state) ∧
      ∀ state, Represents program scope state →
        StepAgrees program (Engine.step scope) (step program state) ∧
        (state.halted = true →
          Engine.step scope = (.ok (), (scope.insert Variable.stepFlag (.bool true)).insert
            Variable.breakFlag (.bool false))) ∧
        (Engine.step scope).2.get? Variable.stepFlag = some (.bool true) ∧
        ∀ name, ¬ Mutable program name → (Engine.step scope).2.get? name = scope.get? name := by
  have accepted := Program.accepted_of_assemble assembled
  refine ⟨exists_represents urcl assembled reachable, fun state represents => ?_⟩
  refine ⟨represents.step_agrees accepted, fun halted => ?_, represents.stepFlag_step accepted,
    fun name immutable => represents.get?_step accepted immutable⟩
  exact represents.step_of_halted accepted halted

/-- The first step of the counting program puts one into the register. -/
theorem step_refines_reference_counter :
    counterSource.extension? = some "urcl" ∧
      Program.assemble counterSource.text = .ok counter ∧ Reachable counterSource (counter.bind ∅) ∧
      StepAgrees counter (Engine.step (counter.bind ∅))
        (.ok { State.initial.setRegister "R1" 1 with pointer := 1 }) := by
  have urcl : counterSource.extension? = some "urcl" := by decide
  have assembled : Program.assemble counterSource.text = .ok counter := rfl
  have reachable : Reachable counterSource (counter.bind ∅) :=
    Urcl.scope_load urcl assembled ∅ ▸ .loaded
  exact ⟨urcl, assembled, reachable, ((step_refines_reference urcl assembled reachable).2
    State.initial (represents_bind counter)).1⟩

end Reference

end UrclDebugger
