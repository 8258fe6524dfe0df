import UrclDebugger.Proofs.Machine.Decoding
import UrclDebugger.Proofs.Machine.Representation

/-!
# The machine simulates the reference machine

A computation of the machine simulates one of the reference machine when from a scope that
represents a state both end alike: with the same result and a scope that represents the state
reached, or with the same error, which is one of the faults that an assembled program can have. In
both cases only registers and the machine's state may have changed. The relation passes through
sequencing, so each action follows from its operations, and each operation code of the reference
machine is simulated by its action and the move of the instruction pointer after it.
-/

namespace UrclDebugger.Reference

/-- Registers and the machine's state apart, no variable has changed. -/
def Unchanged (program : Program) (before after : Scope) : Prop :=
  ∀ name, name ∉ program.registers → name ∉ Machine.stateVariables →
    after.get? name = before.get? name

section Unchanged

variable {program : Program} {first second third : Scope}

theorem Unchanged.refl : Unchanged program first first := fun _ _ _ => rfl

theorem Unchanged.trans (early : Unchanged program first second)
    (late : Unchanged program second third) : Unchanged program first third :=
  fun name notRegister notState =>
    (late name notRegister notState).trans (early name notRegister notState)

theorem unchanged_insert_register {name : String} (member : name ∈ program.registers)
    (value : Value) : Unchanged program first (first.insert name value) := by
  intro other notRegister _
  rw [FiniteMap.get?_insert_of_ne]
  rintro rfl
  exact notRegister member

theorem unchanged_insert_state {name : String} (member : name ∈ Machine.stateVariables)
    (value : Value) : Unchanged program first (first.insert name value) := by
  intro other _ notState
  rw [FiniteMap.get?_insert_of_ne]
  rintro rfl
  exact notState member

theorem unchanged_write (address : Word) (value : Value) :
    Unchanged program first (Memory.write address value first) := by
  unfold Memory.write
  split
  · rw [FiniteMap.alter_eq_insert]
    exact unchanged_insert_state (by decide) _
  · rw [FiniteMap.alter_eq_insert]
    exact unchanged_insert_state (by decide) _

end Unchanged

/-- Why a step of an assembled program can fail. Only operands of the program are at fault, a word
that can not be read or a label that no line of the program has. -/
inductive Fault (program : Program) : ExecError → Prop where
  | pointerOutOfBounds : Fault program .pointerOutOfBounds
  | arithmetic (error : ArithmeticError) : Fault program (.arithmetic error)
  | stackUnderflow : Fault program .stackUnderflow
  | stackAddress {address : Word} (below : address.toInt < -1048576) :
      Fault program (.stackAddress address)
  | invalidOperand {operand : String} (known : operand ∈ program.operands)
      (notRegister : Operand.isRegister operand = false)
      (notLabel : Operand.isLabel operand = false)
      (unreadable : Numeral.parse? operand.toList = none) : Fault program (.invalidOperand operand)
  | undefinedLabel {label : String} (known : label ∈ program.operands)
      (isLabel : Operand.isLabel label = true)
      (noLine : ∀ line ∈ program.labels,
        Operand.labelVariable line.1 ≠ Operand.labelVariable label) :
      Fault program (.undefined (Operand.labelVariable label))

variable {α β γ δ : Type}

/-- How the machine and the reference machine end alike. After an error the scope still represents
some state, which the reference machine does not give. -/
inductive Agrees (program : Program) (embed : β → α) (scope : Scope) :
    Except ExecError α × Scope → Except ExecError (β × State) → Prop where
  | ok {result : β} {left : Scope} {next : State} (represents : Represents program left next)
      (unchanged : Unchanged program scope left) :
      Agrees program embed scope (.ok (embed result), left) (.ok (result, next))
  | error {error : ExecError} {left : Scope} (fault : Fault program error) (state : State)
      (represents : Represents program left state) (unchanged : Unchanged program scope left) :
      Agrees program embed scope (.error error, left) (.error error)

/-- What had changed nothing else before changes nothing else altogether. -/
theorem Agrees.after {program : Program} {embed : β → α} {before scope : Scope}
    {ended : Except ExecError α × Scope} {other : Except ExecError (β × State)}
    (agrees : Agrees program embed scope ended other) (early : Unchanged program before scope) :
    Agrees program embed before ended other := by
  cases agrees with
  | ok represents unchanged => exact .ok represents (early.trans unchanged)
  | error fault state represents unchanged =>
    exact .error fault state represents (early.trans unchanged)

/-- However the two end, only what the machine works on has changed. -/
theorem Agrees.unchanged {program : Program} {embed : β → α} {scope : Scope}
    {ended : Except ExecError α × Scope} {other : Except ExecError (β × State)}
    (agrees : Agrees program embed scope ended other) : Unchanged program scope ended.2 := by
  cases agrees with
  | ok _ unchanged => exact unchanged
  | error _ _ _ unchanged => exact unchanged

/-- However the two end, the scope that is left represents a state. -/
theorem Agrees.exists_represents {program : Program} {embed : β → α} {scope : Scope}
    {ended : Except ExecError α × Scope} {other : Except ExecError (β × State)}
    (agrees : Agrees program embed scope ended other) :
    ∃ state, Represents program ended.2 state := by
  cases agrees with
  | ok represents _ => exact ⟨_, represents⟩
  | error _ state represents _ => exact ⟨state, represents⟩

/-- From every scope that represents a state the two end alike. -/
def Simulates (program : Program) (embed : β → α) (concrete : Exec α) (reference : Run β) : Prop :=
  ∀ scope state, Represents program scope state →
    Agrees program embed scope (concrete.outcome scope) (reference.run state)

variable {program : Program}

section Rules

theorem simulates_pure {embed : β → α} (result : β) :
    Simulates program embed (pure (embed result)) (pure result) :=
  fun _ _ represents => .ok represents .refl

theorem simulates_throw {embed : β → α} {error : ExecError} (fault : Fault program error) :
    Simulates program embed (throw error) (throw error) :=
  fun _ state represents => .error fault state represents .refl

theorem simulates_bind {embed : β → α} {embedRest : δ → γ} {concrete : Exec α} {reference : Run β}
    {rest : α → Exec γ} {referenceRest : β → Run δ}
    (first : Simulates program embed concrete reference)
    (continued : ∀ result, Simulates program embedRest (rest (embed result))
      (referenceRest result)) :
    Simulates program embedRest (concrete >>= rest) (reference >>= referenceRest) := by
  intro scope state represents
  have agrees := first scope state represents
  rw [Exec.outcome_bind, StateT.run_bind]
  generalize concrete.outcome scope = ended at agrees ⊢
  generalize reference.run state = other at agrees ⊢
  cases agrees with
  | ok represents unchanged => exact (continued _ _ _ represents).after unchanged
  | error fault state represents unchanged => exact .error fault state represents unchanged

theorem simulates_read {embed : β → α} {f : Scope → Except ExecError α}
    {g : State → Except ExecError β}
    (same : ∀ scope state, Represents program scope state → f scope = (g state).map embed)
    (faults : ∀ state error, g state = .error error → Fault program error) :
    Simulates program embed (Exec.read f) (read g) := by
  intro scope state represents
  rw [Exec.outcome_read, same scope state represents]
  show Agrees program embed scope _ ((g state).map (·, state))
  cases given : g state with
  | ok result => exact .ok represents .refl
  | error error => exact .error (faults state error given) state represents .refl

theorem simulates_arithmetic (result : Except ArithmeticError Word) :
    Simulates program id (Exec.arithmetic result) (arithmetic result) := by
  intro scope state represents
  cases result with
  | ok word => exact .ok represents .refl
  | error error => exact .error (.arithmetic error) state represents .refl

/-- A binding of a variable that simulates a change of the state. -/
theorem simulates_assign {name : String} {value : Value} {f : State → State}
    (shown : ∀ scope state, Represents program scope state →
      Represents program (scope.insert name value) (f state))
    (unchanged : ∀ scope, Unchanged program scope (scope.insert name value)) :
    Simulates program id (Exec.assign name value) (change f) :=
  fun scope state represents => .ok (shown scope state represents) (unchanged scope)

end Rules

section Operations

/-- An operand of the program stands for the same word on both sides: a register for what the
state says, the zero register for zero, a label for what is bound for good. -/
theorem value_of_represents {text : String} (known : text ∈ program.operands) {scope : Scope}
    {state : State} (represents : Represents program scope state) :
    Operand.value scope text = State.operand program state text := by
  unfold Operand.value State.operand
  split
  · rename_i zero
    subst zero
    rfl
  · rename_i notZero
    split
    · rename_i isRegister
      have member : text ∈ program.registers :=
        Program.mem_registers.mpr (.inr ⟨known, Instruction.isAssignable_iff.mpr
          ⟨isRegister, notZero⟩⟩)
      rw [Scope.requireInt, represents.register member]
    · split
      · rename_i isLabel
        rw [Scope.requireInt, represents.fixed.labels text known isLabel]
        cases program.position? text <;> rfl
      · rfl

/-- An operand that stands for no word is at fault. -/
theorem fault_of_operand {text : String} (known : text ∈ program.operands) {state : State}
    {error : ExecError} (failed : State.operand program state text = .error error) :
    Fault program error := by
  unfold State.operand at failed
  split at failed
  · contradiction
  · rename_i notRegister
    split at failed
    · rename_i isLabel
      split at failed
      · contradiction
      · rename_i noPosition
        obtain rfl := Except.error.inj failed
        exact .undefinedLabel known isLabel (Program.position?_eq_none_iff.mp noPosition)
    · rename_i notLabel
      split at failed
      · contradiction
      · rename_i unreadable
        obtain rfl := Except.error.inj failed
        exact .invalidOperand known (Bool.eq_false_iff.mpr notRegister)
          (Bool.eq_false_iff.mpr notLabel) unreadable

theorem simulates_operand {text : String} (known : text ∈ program.operands) :
    Simulates program id (Machine.operand text) (operand program text) := by
  refine simulates_read (fun scope state represents => ?_) fun _ _ => fault_of_operand known
  rw [value_of_represents known represents]
  cases State.operand program state text <;> rfl

theorem simulates_pointer :
    Simulates program id (Exec.read (Scope.requireInt · Variable.instructionPointer))
      (read fun state => .ok state.pointer) := by
  refine simulates_read (fun scope state represents => ?_) nofun
  rw [Scope.requireInt, represents.pointer]
  rfl

theorem simulates_top :
    Simulates program id (Exec.read (Scope.requireInt · Variable.stackPointer))
      (read fun state => .ok state.stackPointer) := by
  refine simulates_read (fun scope state represents => ?_) nofun
  rw [Scope.requireInt, represents.register program.stackPointer_mem_registers]
  rfl

theorem simulates_setRegister {target : String} (member : target ∈ program.registers)
    (word : Word) :
    Simulates program id (Exec.assign target (.int word)) (assign target word) :=
  simulates_assign (fun _ _ represents => represents.setRegister member word)
    fun _ => unchanged_insert_register member _

theorem simulates_setStackPointer (word : Word) :
    Simulates program id (Exec.assign Variable.stackPointer (.int word))
      (change fun state => { state with stackPointer := word }) :=
  simulates_assign (fun _ _ represents => represents.setStackPointer word)
    fun _ => unchanged_insert_register program.stackPointer_mem_registers _

/-- What is loaded from a cell is a word as a value. -/
theorem simulates_load (address : Word) :
    Simulates program Value.int (Exec.read (Memory.load · address)) (load address) :=
  simulates_read (fun _ _ represents => represents.load address) nofun

theorem simulates_store (address word : Word) :
    Simulates program id (Memory.store address (.int word)) (store address word) := by
  intro scope state represents
  have blocked := represents.obstacle? address
  unfold store
  split
  · rename_i below
    rw [if_pos below] at blocked
    rw [Memory.store, Exec.outcome_change_of_some blocked]
    exact .error (.stackAddress below) state represents .refl
  · rename_i fits
    rw [if_neg fits] at blocked
    rw [Memory.store, Exec.outcome_change_of_none blocked]
    exact .ok (represents.setCell fits word) (unchanged_write address _)

/-- The machine lowers the stack pointer by checked arithmetic, which fails for the least word. -/
theorem simulates_push (word : Word) :
    Simulates program id (Memory.push (.int word)) (push word) := by
  unfold Memory.push push
  refine simulates_bind simulates_top fun top => ?_
  rw [id, Alu.Binary.apply, Word.sub?_one]
  split
  · exact simulates_throw (.arithmetic .overflow)
  · show Simulates program id (pure (top - 1) >>= _) _
    rw [pure_bind]
    exact simulates_bind (simulates_setStackPointer _) fun _ => simulates_store _ word

theorem simulates_pop : Simulates program Value.int Memory.pop pop := by
  unfold Memory.pop pop
  refine simulates_bind simulates_top fun top => ?_
  rw [id]
  split
  · exact simulates_throw .stackUnderflow
  · refine simulates_bind (simulates_load top) fun word => ?_
    exact simulates_bind (simulates_setStackPointer _) fun _ => simulates_pure word

/-- The end of a turn goes to the next instruction. -/
theorem simulates_moveOn : Simulates program id Machine.moveOn next := by
  intro scope state represents
  have pointer : scope.requireInt Variable.instructionPointer = .ok state.pointer := by
    rw [Scope.requireInt, represents.pointer]
  rw [Machine.moveOn, Exec.outcome_bind, Exec.outcome_read, pointer]
  exact .ok (represents.setPointer _) (unchanged_insert_state (by decide) _)

/-- A pointer is set to one short of the place that is reached at the end of the turn. -/
theorem simulates_goto (position : Word) :
    Simulates program id
      (Exec.assign Variable.instructionPointer (.int position) >>= fun _ => Machine.moveOn)
      (goto (position + 1)) := by
  intro scope state represents
  exact simulates_moveOn _ _ (represents.setPointer position) |>.after
    (unchanged_insert_state (by decide) _)

theorem simulates_jump (destination : Word) :
    Simulates program id (Machine.jump destination >>= fun _ => Machine.moveOn)
      (jump destination) := by
  unfold Machine.jump jump
  rw [bind_assoc, Alu.Binary.apply, Word.sub?_one]
  split
  · exact simulates_throw (.arithmetic .overflow)
  · have reached : Simulates program id _ _ := simulates_goto (destination - 1)
    rw [Word.sub_one_add_one] at reached
    exact reached

/-- A binding of the instruction pointer takes a word that was popped as it is. -/
theorem simulates_ret :
    Simulates program id (Machine.perform .ret >>= fun _ => Machine.moveOn)
      (pop >>= fun position => goto (position + 1)) := by
  rw [Machine.perform, bind_assoc]
  exact simulates_bind simulates_pop simulates_goto

end Operations

section Actions

variable {target value left right destination : String}

theorem simulates_unary (op : Alu.Unary) (known : value ∈ program.operands)
    (member : target ∈ program.registers) :
    Simulates program id (Machine.perform (.unary op target value) >>= fun _ => Machine.moveOn)
      (unary program op.apply target value) := by
  simp only [Machine.perform, bind_assoc]
  refine simulates_bind (simulates_operand known) fun word => ?_
  refine simulates_bind (simulates_arithmetic _) fun result => ?_
  exact simulates_bind (simulates_setRegister member result) fun _ => simulates_moveOn

theorem simulates_binary (op : Alu.Binary) (knownLeft : left ∈ program.operands)
    (knownRight : right ∈ program.operands) (member : target ∈ program.registers) :
    Simulates program id
      (Machine.perform (.binary op target left right) >>= fun _ => Machine.moveOn)
      (binary program op target left right) := by
  simp only [Machine.perform, bind_assoc]
  refine simulates_bind (simulates_operand knownLeft) fun left => ?_
  refine simulates_bind (simulates_operand knownRight) fun right => ?_
  refine simulates_bind (simulates_arithmetic _) fun result => ?_
  exact simulates_bind (simulates_setRegister member result) fun _ => simulates_moveOn

/-- A transfer that depends on a test. -/
theorem simulates_transfer (test : Bool) (position : Word) :
    Simulates program id
      ((if test then Machine.jump position else pure ()) >>= fun _ => Machine.moveOn)
      (if test then jump position else next) := by
  cases test with
  | true => exact simulates_jump position
  | false => exact simulates_moveOn

theorem simulates_branchTwo (test : Alu.Test) (knownDestination : destination ∈ program.operands)
    (knownLeft : left ∈ program.operands) (knownRight : right ∈ program.operands) :
    Simulates program id
      (Machine.perform (.branch test destination left right) >>= fun _ => Machine.moveOn)
      (branchTwo program test.holds destination left right) := by
  simp only [Machine.perform, bind_assoc]
  refine simulates_bind (simulates_operand knownDestination) fun position => ?_
  refine simulates_bind (simulates_operand knownLeft) fun left => ?_
  refine simulates_bind (simulates_operand knownRight) fun right => ?_
  exact simulates_transfer _ position

/-- A branch on one word compares it with the zero register, which need not occur in the program. -/
theorem simulates_branchOne (test : Alu.Test) (knownDestination : destination ∈ program.operands)
    (known : value ∈ program.operands) :
    Simulates program id
      (Machine.perform (.branch test destination value Operand.zeroRegister) >>=
        fun _ => Machine.moveOn)
      (branchOne program (test.holds · 0) destination value) := by
  have zero : Machine.operand Operand.zeroRegister = pure 0 := rfl
  simp only [Machine.perform, bind_assoc, zero, pure_bind]
  refine simulates_bind (simulates_operand knownDestination) fun position => ?_
  refine simulates_bind (simulates_operand known) fun word => ?_
  exact simulates_transfer _ position

end Actions

section Effect

variable {op : Opcode} {action : Action}

theorem simulates_effect0 (found : Action.ofOpcode0? op = some action) (a b c : String) :
    Simulates program id (Machine.perform action >>= fun _ => Machine.moveOn)
      (effect program op a b c) := by
  cases op with
  | nop =>
    obtain rfl := Option.some.inj found
    exact simulates_moveOn
  | hlt =>
    obtain rfl := Option.some.inj found
    refine simulates_bind (simulates_assign ?_ ?_) fun _ => simulates_moveOn
    · exact fun _ _ represents => represents.setHalted true
    · exact fun _ => unchanged_insert_state (by decide) _
  | brk =>
    obtain rfl := Option.some.inj found
    refine simulates_bind (simulates_assign ?_ ?_) fun _ => simulates_moveOn
    · exact fun _ _ represents => represents.setPaused true
    · exact fun _ => unchanged_insert_state (by decide) _
  | ret =>
    obtain rfl := Option.some.inj found
    exact simulates_ret
  | _ => nomatch found

theorem simulates_effect1 {a : String} (found : Action.ofOpcode1? op a = some action)
    (known : a ∈ program.operands)
    (target : ∀ register ∈ action.target?, register ∈ program.registers) (b c : String) :
    Simulates program id (Machine.perform action >>= fun _ => Machine.moveOn)
      (effect program op a b c) := by
  cases op with
  | psh =>
    obtain rfl := Option.some.inj found
    rw [Machine.perform, bind_assoc]
    refine simulates_bind (simulates_operand known) fun word => ?_
    exact simulates_bind (simulates_push word) fun _ => simulates_moveOn
  | pop =>
    obtain rfl := Option.some.inj found
    rw [Machine.perform, bind_assoc]
    refine simulates_bind simulates_pop fun word => ?_
    exact simulates_bind (simulates_setRegister (target a rfl) word) fun _ => simulates_moveOn
  | jmp =>
    obtain rfl := Option.some.inj found
    rw [Machine.perform, bind_assoc]
    exact simulates_bind (simulates_operand known) simulates_jump
  | cal =>
    obtain rfl := Option.some.inj found
    simp only [Machine.perform, bind_assoc]
    refine simulates_bind (simulates_operand known) fun destination => ?_
    refine simulates_bind simulates_pointer fun pointer => ?_
    exact simulates_bind (simulates_push pointer) fun _ => simulates_jump destination
  | _ => nomatch found

theorem simulates_effect2 {a b : String} (found : Action.ofOpcode2? op a b = some action)
    (knownFirst : a ∈ program.operands) (knownSecond : b ∈ program.operands)
    (target : ∀ register ∈ action.target?, register ∈ program.registers) (c : String) :
    Simulates program id (Machine.perform action >>= fun _ => Machine.moveOn)
      (effect program op a b c) := by
  cases op with
  | lod =>
    obtain rfl := Option.some.inj found
    simp only [Machine.perform, bind_assoc]
    refine simulates_bind (simulates_operand knownSecond) fun address => ?_
    refine simulates_bind (simulates_load address) fun word => ?_
    exact simulates_bind (simulates_setRegister (target a rfl) word) fun _ => simulates_moveOn
  | str =>
    obtain rfl := Option.some.inj found
    simp only [Machine.perform, bind_assoc]
    refine simulates_bind (simulates_operand knownFirst) fun address => ?_
    refine simulates_bind (simulates_operand knownSecond) fun word => ?_
    exact simulates_bind (simulates_store address word) fun _ => simulates_moveOn
  | cpy =>
    obtain rfl := Option.some.inj found
    simp only [Machine.perform, bind_assoc]
    refine simulates_bind (simulates_operand knownFirst) fun address => ?_
    refine simulates_bind (simulates_operand knownSecond) fun source => ?_
    refine simulates_bind (simulates_load source) fun word => ?_
    exact simulates_bind (simulates_store address word) fun _ => simulates_moveOn
  | mov | imm =>
    obtain rfl := Option.some.inj found
    rw [Machine.perform, bind_assoc]
    refine simulates_bind (simulates_operand knownSecond) fun word => ?_
    exact simulates_bind (simulates_setRegister (target a rfl) word) fun _ => simulates_moveOn
  | lsh | rsh | inc | dec | not =>
    obtain rfl := Option.some.inj found
    exact simulates_unary _ knownSecond (target a rfl)
  | brz | bnz =>
    obtain rfl := Option.some.inj found
    exact simulates_branchOne _ knownFirst knownSecond
  | _ => nomatch found

theorem simulates_effect3 {a b c : String} (found : Action.ofOpcode3? op a b c = some action)
    (knownFirst : a ∈ program.operands) (knownSecond : b ∈ program.operands)
    (knownThird : c ∈ program.operands)
    (target : ∀ register ∈ action.target?, register ∈ program.registers) :
    Simulates program id (Machine.perform action >>= fun _ => Machine.moveOn)
      (effect program op a b c) := by
  cases op with
  | add | sub | mlt | div | mod | and | or | xor | bsl | bsr =>
    obtain rfl := Option.some.inj found
    exact simulates_binary _ knownSecond knownThird (target a rfl)
  | bre | bne | brl | brg | ble | bge =>
    obtain rfl := Option.some.inj found
    exact simulates_branchTwo _ knownFirst knownSecond knownThird
  | _ => nomatch found

/-- An operation on operands of the program is simulated by its action, after which the instruction
pointer moves on. -/
theorem simulates_effect {operands : List String} (found : Action.of? op operands = some action)
    (known : ∀ operand ∈ operands, operand ∈ program.operands) (admissible : action.Admissible) :
    Simulates program id (Machine.perform action >>= fun _ => Machine.moveOn)
      (effect program op (operands.getD 0 "") (operands.getD 1 "") (operands.getD 2 "")) := by
  have target : ∀ register ∈ action.target?, register ∈ program.registers := by
    intro register assigned
    obtain ⟨_, first⟩ := Action.target?_of? found register assigned
    exact Program.mem_registers.mpr (.inr ⟨known register (List.mem_of_mem_head? first),
      admissible register assigned⟩)
  match operands with
  | [] => exact simulates_effect0 found "" "" ""
  | [a] => exact simulates_effect1 found (known a (by simp)) target "" ""
  | [a, b] => exact simulates_effect2 found (known a (by simp)) (known b (by simp)) target ""
  | [a, b, c] =>
    exact simulates_effect3 found (known a (by simp)) (known b (by simp)) (known c (by simp)) target
  | _ :: _ :: _ :: _ :: _ => nomatch found

end Effect

section Turn

/-- A turn performs what is at the pointer; of an accepted program every instruction has an
action. -/
theorem simulates_turn (accepted : program.Accepted) :
    Simulates program id Machine.turn (turn program) := by
  rw [Machine.turn_eq]
  refine simulates_bind simulates_pointer fun pointer => ?_
  intro scope state represents
  rw [Exec.outcome_bind, Exec.outcome_read, id, Fetch.action_of_program represents.fixed.loaded]
  cases here : program.instruction? pointer with
  | none => exact .error .pointerOutOfBounds state represents .refl
  | some instruction =>
    have member := Program.mem_of_instruction? here
    obtain ⟨op, action, named, _, found, admissible⟩ :=
      Instruction.exists_action (accepted instruction member)
    have known : ∀ operand ∈ instruction.operands, operand ∈ program.operands :=
      fun operand listed => Program.mem_operands member listed
    simp only [Fetch.decode_toValue named found, named]
    exact simulates_effect found known admissible scope state represents

end Turn

end UrclDebugger.Reference
