import UrclDebugger.Proofs.Machine.Refinement

/-!
# Programs that are loaded over others

Loading a program resets the machine and the program's registers, but label variables that the new
program does not bind stay as older programs have left them, and an operand may still name one. A
scope hosts a program if it represents a state of that program with the label lines of older ones
before its own. A scope that no program was loaded into is vacant: a step there fails.
-/

namespace UrclDebugger

/-- The program with label lines of older programs before its own. -/
def Program.behind (program : Program) (older : Array (String × Nat)) : Program :=
  { program with labels := older ++ program.labels }

namespace Program

variable (program : Program) (older : Array (String × Nat))

/-- Where both have a label, the program's own line counts. -/
theorem position?_behind (label : String) :
    (program.behind older).position? label =
      (program.position? label).or (Program.position? ⟨#[], older⟩ label) := by
  unfold position? behind
  simp only [Array.toList_append, List.reverse_append, List.find?_append]
  cases program.labels.toList.reverse.find? fun line =>
    Operand.labelVariable line.1 = Operand.labelVariable label <;> rfl

end Program

/-- A scope that no program has been loaded into: at most the step flag is bound. -/
def Scope.Vacant (scope : Scope) : Prop :=
  ∀ name, name ≠ Variable.stepFlag → scope.get? name = none

theorem Scope.vacant_empty : Scope.Vacant ∅ := fun _ _ => rfl

/-- Without a program a step sets the step flag and fails. -/
theorem Scope.Vacant.step {scope : Scope} (vacant : scope.Vacant) :
    Engine.step scope =
      (.error (.undefined Variable.entry), scope.insert Variable.stepFlag (.bool true)) := by
  have unbound : (scope.insert Variable.stepFlag (.bool true)).get? Variable.entry = none := by
    rw [FiniteMap.get?_insert_of_ne _ _ (by decide), vacant Variable.entry (by decide)]
  exact Machine.step_of_steps (.undefined unbound) (by decide)

theorem Scope.Vacant.insert_stepFlag {scope : Scope} (vacant : scope.Vacant) (value : Value) :
    Scope.Vacant (scope.insert Variable.stepFlag value) := by
  intro name different
  rw [FiniteMap.get?_insert_of_ne _ _ different]
  exact vacant name different

namespace Reference

/-- A scope hosts a program: it represents a state of the program behind older label lines, and its
label variables are those of all these lines. -/
structure Hosts (program : Program) (older : Array (String × Nat)) (state : State)
    (scope : Scope) : Prop where
  represents : Represents (program.behind older) scope state
  labels : ∀ label, scope.get? (Operand.labelVariable label) =
    ((program.behind older).position? label).map .int

variable {program : Program} {older : Array (String × Nat)} {scope : Scope} {state : State}

/-- What is worked on is bound anew by loading, whatever stood there before. -/
theorem get?_bind_of_mutable {name : String} (mutable : Mutable program name) :
    (program.bind scope).get? name = (program.bind ∅).get? name := by
  have own : ∀ name ∈ Variable.stepFlag :: Machine.stateVariables,
      name ∈ Variable.own ∧ name ≠ Variable.program ∧ name ≠ Variable.entry := by decide
  rcases mutable with register | state
  · rw [Program.get?_bind_of_mem_registers register, Program.get?_bind_of_mem_registers register]
  · obtain ⟨member, noProgram, noEntry⟩ := own name state
    rw [Program.get?_bind_of_mem_own member noProgram noEntry,
      Program.get?_bind_of_mem_own member noProgram noEntry]
    simp only [Machine.stateVariables, List.mem_cons, List.not_mem_nil, or_false] at state
    unfold Program.bindState
    rcases state with rfl | rfl | rfl | rfl | rfl | rfl <;> simp +decide [FiniteMap.get?_insert]

/-- A program that is loaded stands before its first instruction; labels that were known stay known
unless the program has them itself. -/
theorem hosts_bind (known : ∀ label, scope.get? (Operand.labelVariable label) =
    (Program.position? ⟨#[], older⟩ label).map .int) :
    Hosts program older State.initial (program.bind scope) := by
  have labels (label : String) : (program.bind scope).get? (Operand.labelVariable label) =
      ((program.behind older).position? label).map .int := by
    rw [Program.get?_bind_labelVariable, known, Program.position?_behind]
    cases program.position? label <;> rfl
  have fixed : Fixed (program.behind older) (program.bind scope) :=
    ⟨Program.get?_bind_program, Program.get?_bind_entry, fun label _ _ => labels label⟩
  refine ⟨⟨fixed, fun name mutable => ?_⟩, labels⟩
  have worked : Mutable program name := mutable
  rw [get?_bind_of_mutable worked]
  exact (represents_bind program).shown name worked

/-- A step leaves the program and the labels where they are, whether it fails or not. -/
theorem Hosts.step (hosts : Hosts program older state scope) (accepted : program.Accepted) :
    ∃ next, Hosts program older next (Engine.step scope).2 := by
  have behind : (program.behind older).Accepted := accepted
  obtain ⟨next, represents⟩ := (hosts.represents.step_agrees behind).exists_represents
  refine ⟨next, represents, fun label => ?_⟩
  rw [hosts.represents.get?_step behind (not_mutable_labelVariable label), hosts.labels]

end Reference

end UrclDebugger
