import UrclDebugger.Proofs.Machine.Hosting
import UrclDebugger.Proofs.Machine.Locality
import UrclDebugger.Proofs.Machine.SingleStep

/-!
# Loading a program resets the machine

A scope can hold anything before a program is loaded into it: bindings of scripts, registers and
labels of other programs, a machine in the middle of a run. Loading binds some variables anew, and
if every label that the program uses is on one of its own lines, its steps look at no others. So two
scopes can not be told apart by what the program does after it was loaded into them
(`Reference.Twins`), and what loading does not bind is carried along in both.
-/

namespace UrclDebugger

namespace Program

/-- The variables that loading a program binds: the machine's own, the program's registers and the
variables of its label lines. -/
def Binds (program : Program) (name : String) : Prop :=
  name ∈ Variable.own ∨ name ∈ program.registers ∨
    ∃ line ∈ program.labels, Operand.labelVariable line.1 = name

/-- Every label that is an operand is on a line of the program itself. -/
def Closed (program : Program) : Prop :=
  ∀ label ∈ program.operands, Operand.isLabel label = true →
    ∃ line ∈ program.labels, Operand.labelVariable line.1 = Operand.labelVariable label

instance (program : Program) : Decidable program.Closed :=
  inferInstanceAs (Decidable (∀ label ∈ program.operands, Operand.isLabel label = true →
    ∃ line ∈ program.labels, Operand.labelVariable line.1 = Operand.labelVariable label))

variable {program : Program} {scope : Scope} {name : String}

theorem exists_position? {label : String}
    (listed : ∃ line ∈ program.labels, Operand.labelVariable line.1 = Operand.labelVariable label) :
    ∃ position, program.position? label = some position := by
  obtain ⟨line, member, same⟩ := listed
  cases found : program.position? label with
  | some position => exact ⟨position, rfl⟩
  | none => exact absurd same (position?_eq_none_iff.mp found line member)

/-- A label line decides what its variable holds, whatever was there before. -/
theorem get?_bind_of_listed {label : String}
    (listed : ∃ line ∈ program.labels, Operand.labelVariable line.1 = Operand.labelVariable label) :
    (program.bind scope).get? (Operand.labelVariable label) =
      (program.position? label).map Value.int := by
  obtain ⟨position, found⟩ := exists_position? listed
  rw [get?_bind_labelVariable, found]
  rfl

/-- What loading does not bind keeps its value. -/
theorem get?_bind_of_not_binds (unbound : ¬ program.Binds name) :
    (program.bind scope).get? name = scope.get? name := by
  have notOwn : name ∉ Variable.own := fun own => unbound (.inl own)
  have noRegister : name ∉ program.registers := fun register => unbound (.inr (.inl register))
  by_cases isLabel : ∃ label, Operand.labelVariable label = name
  · obtain ⟨label, rfl⟩ := isLabel
    have noLine : program.position? label = none :=
      position?_eq_none_iff.mpr fun line member same => unbound (.inr (.inr ⟨line, member, same⟩))
    rw [get?_bind_labelVariable, noLine]
    rfl
  · rw [get?_bind_of_not_mem_own notOwn,
      get?_bindLabels_of_forall_ne fun label same => isLabel ⟨label, same⟩, get?_bindRegisters,
      if_neg noRegister, get?_bindState_of_not_mem_own notOwn]

/-- What loading binds does not depend on what was there. -/
theorem agreeOn_bind (program : Program) (first second : Scope) :
    Scope.AgreeOn program.Binds (program.bind first) (program.bind second) := by
  rintro name (own | register | ⟨line, member, rfl⟩)
  · by_cases mutable : name ∈ Variable.stepFlag :: Machine.stateVariables
    · rw [Reference.get?_bind_of_mutable (.inr mutable),
        ← Reference.get?_bind_of_mutable (.inr mutable)]
    · have fixed : ∀ name ∈ Variable.own, name ∉ Variable.stepFlag :: Machine.stateVariables →
          name = Variable.program ∨ name = Variable.entry := by decide
      rcases fixed name own mutable with rfl | rfl
      · rw [get?_bind_program, get?_bind_program]
      · rw [get?_bind_entry, get?_bind_entry]
  · rw [get?_bind_of_mem_registers register, get?_bind_of_mem_registers register]
  · rw [get?_bind_of_listed ⟨line, member, rfl⟩, get?_bind_of_listed ⟨line, member, rfl⟩]

/-- Loading binds what operands of the program are read from. -/
theorem Closed.binds_of_operand (closed : program.Closed) {text : String}
    (known : text ∈ program.operands) : ∀ name ∈ Operand.variable? text, program.Binds name := by
  unfold Operand.variable?
  intro name read
  split at read
  · contradiction
  rename_i notZero
  split at read
  · rename_i register
    obtain rfl := Option.some.inj read
    exact .inr (.inl (mem_registers.mpr
      (.inr ⟨known, Instruction.isAssignable_iff.mpr ⟨register, notZero⟩⟩)))
  split at read
  · rename_i label
    obtain rfl := Option.some.inj read
    exact .inr (.inr (closed text known label))
  · contradiction

theorem supports_binds (program : Program) : Machine.Supports program.Binds where
  state := fun _ state => .inl (Reference.mem_own_of_mem_stateVariables (.tail _ state))
  stackPointer := .inr (.inl program.stackPointer_mem_registers)

/-- Whatever is fetched from a closed program reads variables that loading has bound. -/
theorem Closed.readable (closed : program.Closed) (accepted : program.Accepted)
    (loaded : scope.get? Variable.program =
      some (.list (program.instructions.map Instruction.toValue))) {position : Word}
    {action : Action} (fetched : Fetch.action scope position = .ok action) {text : String}
    (read : text ∈ action.sources) : ∀ name ∈ Operand.variable? text, program.Binds name := by
  rw [Fetch.action_of_program loaded] at fetched
  cases here : program.instruction? position with
  | none =>
    rw [here] at fetched
    contradiction
  | some instruction =>
    have member := mem_of_instruction? here
    obtain ⟨op, decoded, named, _, found, _⟩ := Instruction.exists_action (accepted _ member)
    rw [here] at fetched
    obtain rfl := Except.ok.inj ((Fetch.decode_toValue named found position).symm.trans fetched)
    rcases Action.mem_of_mem_sources found read with listed | rfl
    · exact closed.binds_of_operand (mem_operands member listed)
    · exact nofun

end Program

namespace Reference

variable {program : Program} {scope one other : Scope} {state : State} {name : String}

/-- A closed program stands before its first instruction, whatever scope it was loaded into. -/
theorem represents_bind_of_closed (closed : program.Closed) (scope : Scope) :
    Represents program (program.bind scope) State.initial where
  fixed := ⟨Program.get?_bind_program, Program.get?_bind_entry, fun label member isLabel =>
    Program.get?_bind_of_listed (closed label member isLabel)⟩
  shown := fun name mutable => by
    rw [get?_bind_of_mutable mutable]
    exact (represents_bind program).shown name mutable

theorem not_mutable_of_not_binds (unbound : ¬ program.Binds name) : ¬ Mutable program name :=
  not_mutable_of_not_mem_own (fun register => unbound (.inr (.inl register)))
    fun own => unbound (.inl own)

/-- Steps leave what loading has not bound. -/
theorem Represents.get?_afterSteps (accepted : program.Accepted)
    (represents : Represents program scope state) (unbound : ¬ program.Binds name) (count : Nat) :
    (Urcl.afterSteps count scope).get? name = scope.get? name := by
  induction count generalizing scope state with
  | zero => rfl
  | succ count ih =>
    obtain ⟨next, after⟩ := (represents.step_agrees accepted).exists_represents
    rw [Urcl.afterSteps, ih after,
      represents.get?_step accepted (not_mutable_of_not_binds unbound)]

/-- Two scopes in which a program has been loaded that agree on what loading binds. -/
structure Twins (program : Program) (one other : Scope) : Prop where
  agree : Scope.AgreeOn program.Binds one other
  one : ∃ state, Represents program one state
  other : ∃ state, Represents program other state

theorem twins_bind (closed : program.Closed) (first second : Scope) :
    Twins program (program.bind first) (program.bind second) where
  agree := program.agreeOn_bind first second
  one := ⟨_, represents_bind_of_closed closed first⟩
  other := ⟨_, represents_bind_of_closed closed second⟩

/-- A step ends alike in both scopes. -/
theorem Twins.endAlike_step (twins : Twins program one other) (closed : program.Closed)
    (accepted : program.Accepted) :
    Exec.EndAlike program.Binds (Engine.step one) (Engine.step other) := by
  obtain ⟨agree, ⟨state, represents⟩, ⟨_, representsOther⟩⟩ := twins
  have prepared : Scope.AgreeOn program.Binds (Machine.prepared one) (Machine.prepared other) :=
    (agree.insert _ _).insert _ _
  have sameHalt : Machine.halted (Machine.prepared one) = Machine.halted (Machine.prepared other) :=
    congrArg (Except.map Value.isTruthy) (prepared.require (.inl (by decide)))
  rw [represents.step_eq accepted, representsOther.step_eq accepted, Machine.singleTurn,
    Machine.singleTurn, ← sameHalt]
  rcases Machine.halted (Machine.prepared one) with error | _ | _
  · exact ⟨rfl, prepared⟩
  · exact Machine.endAlike_turn program.supports_binds prepared (prepared _ (.inl (by decide)))
      fun position action fetched text read =>
        closed.readable accepted represents.prepared.fixed.loaded fetched read
  · exact ⟨rfl, prepared⟩

theorem Twins.step (twins : Twins program one other) (closed : program.Closed)
    (accepted : program.Accepted) : Twins program (Engine.step one).2 (Engine.step other).2 := by
  have agree := (twins.endAlike_step closed accepted).2
  obtain ⟨_, ⟨_, represents⟩, ⟨_, representsOther⟩⟩ := twins
  exact ⟨agree, (represents.step_agrees accepted).exists_represents,
    (representsOther.step_agrees accepted).exists_represents⟩

theorem Twins.afterSteps (twins : Twins program one other) (closed : program.Closed)
    (accepted : program.Accepted) (count : Nat) :
    Twins program (Urcl.afterSteps count one) (Urcl.afterSteps count other) := by
  induction count generalizing one other with
  | zero => exact twins
  | succ count ih => exact ih (twins.step closed accepted)

/-- Loading resets the machine: after the same program was loaded into any two scopes, each of its
steps ends alike in both, also after failed ones, and leaves what loading binds alike. What loading
does not bind is as it was in either scope. -/
theorem load_resets {source : Source} (urcl : source.extension? = some "urcl")
    (assembled : Program.assemble source.text = .ok program) (closed : program.Closed)
    (first second : Scope) (count : Nat) :
    (Engine.step (Urcl.afterSteps count (Engine.load first source).scope)).1 =
      (Engine.step (Urcl.afterSteps count (Engine.load second source).scope)).1 ∧
    (∀ name, program.Binds name →
      (Urcl.afterSteps count (Engine.load first source).scope).get? name =
        (Urcl.afterSteps count (Engine.load second source).scope).get? name) ∧
    ∀ name, ¬ program.Binds name →
      (Urcl.afterSteps count (Engine.load first source).scope).get? name = first.get? name ∧
      (Urcl.afterSteps count (Engine.load second source).scope).get? name = second.get? name := by
  have accepted := Program.accepted_of_assemble assembled
  rw [Urcl.scope_load urcl assembled, Urcl.scope_load urcl assembled]
  have twins := (twins_bind closed first second).afterSteps closed accepted count
  have kept (scope : Scope) {name : String} (unbound : ¬ program.Binds name) :
      (Urcl.afterSteps count (program.bind scope)).get? name = scope.get? name := by
    rw [(represents_bind_of_closed closed scope).get?_afterSteps accepted unbound,
      Program.get?_bind_of_not_binds unbound]
  exact ⟨(twins.endAlike_step closed accepted).1, twins.agree,
    fun name unbound => ⟨kept first unbound, kept second unbound⟩⟩

/-- A scope in which another program has halted and a script has bound a variable. -/
def leftovers : Scope :=
  FiniteMap.ofList [("R1", .text "one"), ("LABEL_again", .int 7), ("STACK", .list #[.int 3]),
    ("HALT", .bool true), ("NOTE", .int 5)]

/-- The counting program does not notice what was there before and does not touch the script's
variable. -/
theorem load_resets_counter :
    counterSource.extension? = some "urcl" ∧
      Program.assemble counterSource.text = .ok counter ∧ counter.Closed ∧
      (Engine.step (Urcl.afterSteps 3 (Engine.load (∅ : Scope) counterSource).scope)).1 =
        (Engine.step (Urcl.afterSteps 3 (Engine.load leftovers counterSource).scope)).1 ∧
      (Urcl.afterSteps 3 (Engine.load (∅ : Scope) counterSource).scope).get? "R1" =
        (Urcl.afterSteps 3 (Engine.load leftovers counterSource).scope).get? "R1" ∧
      (Urcl.afterSteps 3 (Engine.load leftovers counterSource).scope).get? "NOTE" =
        some (.int 5) := by
  have urcl : counterSource.extension? = some "urcl" := by decide
  have assembled : Program.assemble counterSource.text = .ok counter := rfl
  have closed : counter.Closed := by decide
  have bound : counter.Binds "R1" :=
    .inr (.inl (Program.mem_registers.mpr (.inr ⟨by decide, by decide⟩)))
  have unbound : ¬ counter.Binds "NOTE" := by
    rintro (own | register | ⟨line, member, same⟩)
    · exact absurd own (by decide)
    · exact absurd (Program.isRegister_of_mem_registers register) (by decide)
    · have lines : ∀ line ∈ counter.labels, Operand.labelVariable line.1 ≠ "NOTE" := by decide
      exact lines line member same
  obtain ⟨sameResult, agree, kept⟩ := load_resets urcl assembled closed ∅ leftovers 3
  exact ⟨urcl, assembled, closed, sameResult, agree "R1" bound, (kept "NOTE" unbound).2⟩

end Reference

end UrclDebugger
