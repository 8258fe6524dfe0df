import UrclDebugger.Proofs.Machine.Effects

/-!
# What actions look at

Two scopes may agree on some variables and differ in all others. A computation is local to these
variables when it can not tell such scopes apart: it ends alike in both and leaves scopes that agree
on them again. An action is local to any variables among which are the machine's state, the stack
pointer and what its own operands name (`Machine.local_perform`), whatever it may find there.
-/

namespace UrclDebugger

/-- Both scopes have the same values for the variables, or none for a variable in both. -/
def Scope.AgreeOn (names : String → Prop) (one other : Scope) : Prop :=
  ∀ name, names name → one.get? name = other.get? name

section AgreeOn

variable {names : String → Prop} {one other : Scope}

theorem Scope.AgreeOn.insert (agree : Scope.AgreeOn names one other) (name : String)
    (value : Value) : Scope.AgreeOn names (one.insert name value) (other.insert name value) := by
  intro wanted member
  rw [FiniteMap.get?_insert, FiniteMap.get?_insert, agree wanted member]

theorem Scope.AgreeOn.alter (agree : Scope.AgreeOn names one other) {name : String}
    (member : names name) (f : Option Value → Value) :
    Scope.AgreeOn names (one.alter name f) (other.alter name f) := by
  rw [FiniteMap.alter_eq_insert, FiniteMap.alter_eq_insert, agree name member]
  exact agree.insert name _

theorem Scope.AgreeOn.require (agree : Scope.AgreeOn names one other) {name : String}
    (member : names name) : one.require name = other.require name := by
  rw [Scope.require, Scope.require, agree name member]

theorem Scope.AgreeOn.requireInt (agree : Scope.AgreeOn names one other) {name : String}
    (member : names name) : one.requireInt name = other.requireInt name := by
  rw [Scope.requireInt, Scope.requireInt, agree name member]

end AgreeOn

namespace Exec

variable {α β : Type}

/-- Two ends of a computation that can not be told apart by the variables. -/
def EndAlike (names : String → Prop) (first second : Except ExecError α × Scope) : Prop :=
  first.1 = second.1 ∧ Scope.AgreeOn names first.2 second.2

/-- A computation that ends alike in scopes that agree on the variables. -/
def LocalTo (names : String → Prop) (computation : Exec α) : Prop :=
  ∀ one other, Scope.AgreeOn names one other →
    EndAlike names (computation.outcome one) (computation.outcome other)

variable {names : String → Prop}

theorem local_pure (result : α) : LocalTo names (pure result : Exec α) :=
  fun _ _ agree => ⟨rfl, agree⟩

theorem local_throw (error : ExecError) : LocalTo names (throw error : Exec α) :=
  fun _ _ agree => ⟨rfl, agree⟩

/-- After alike ends the same rest runs in scopes that agree. -/
theorem local_bind {computation : Exec α} {rest : α → Exec β} (first : LocalTo names computation)
    (continued : ∀ result, LocalTo names (rest result)) : LocalTo names (computation >>= rest) := by
  intro one other agree
  obtain ⟨same, left⟩ := first one other agree
  rw [outcome_bind, outcome_bind]
  revert same left
  rcases computation.outcome one with ⟨error | result, leftOne⟩ <;>
    rcases computation.outcome other with ⟨error' | result', leftOther⟩ <;> intro same left
  · obtain rfl := Except.error.inj same
    exact ⟨rfl, left⟩
  · contradiction
  · contradiction
  · obtain rfl := Except.ok.inj same
    exact continued result leftOne leftOther left

theorem local_read {f : Scope → Except ExecError α}
    (same : ∀ one other, Scope.AgreeOn names one other → f one = f other) :
    LocalTo names (read f) :=
  fun one other agree => ⟨same one other agree, agree⟩

theorem local_assign (name : String) (value : Value) : LocalTo names (assign name value) :=
  fun _ _ agree => ⟨rfl, agree.insert name value⟩

theorem local_arithmetic (result : Except ArithmeticError Word) :
    LocalTo names (arithmetic result) := by
  intro one other agree
  cases result <;> exact ⟨rfl, agree⟩

theorem local_change {obstacle : Scope → Option ExecError} {f : Scope → Scope}
    (sameObstacle : ∀ one other, Scope.AgreeOn names one other → obstacle one = obstacle other)
    (carried : ∀ one other, Scope.AgreeOn names one other →
      Scope.AgreeOn names (f one) (f other)) : LocalTo names (change obstacle f) := by
  intro one other agree
  have same := sameObstacle one other agree
  cases blocked : obstacle one with
  | none =>
    rw [outcome_change_of_none blocked, outcome_change_of_none (same ▸ blocked)]
    exact ⟨rfl, carried one other agree⟩
  | some error =>
    rw [outcome_change_of_some blocked, outcome_change_of_some (same ▸ blocked)]
    exact ⟨rfl, agree⟩

end Exec

/-- The variable that has to be read for the word that an operand stands for. -/
def Operand.variable? (operand : String) : Option String :=
  if operand = zeroRegister then none
  else if isRegister operand then some operand
  else if isLabel operand then some (labelVariable operand)
  else none

/-- The operands that an action reads. -/
def Action.sources : Action → List String
  | .idle | .halt | .pause | .ret | .pop _ => []
  | .push value | .assign _ value | .unary _ _ value => [value]
  | .jump destination | .call destination => [destination]
  | .load _ address => [address]
  | .store address value => [address, value]
  | .copy address source => [address, source]
  | .binary _ _ left right => [left, right]
  | .branch _ destination left right => [destination, left, right]

/-- An action reads operands of its instruction and the zero register. -/
theorem Action.mem_of_mem_sources {op : Opcode} {operands : List String} {action : Action}
    (found : of? op operands = some action) {source : String} (read : source ∈ action.sources) :
    source ∈ operands ∨ source = Operand.zeroRegister := by
  match operands with
  | [] => cases op <;> cases found <;> contradiction
  | [_] => cases op <;> cases found <;> grind [sources]
  | [_, _] => cases op <;> cases found <;> grind [sources]
  | [_, _, _] => cases op <;> cases found <;> grind [sources]
  | _ :: _ :: _ :: _ :: _ => simp [of?] at found

namespace Machine

/-- Variables among which are all that the machine works on by itself, whatever the operands of an
instruction are. -/
structure Supports (names : String → Prop) : Prop where
  state : ∀ name ∈ stateVariables, names name
  stackPointer : names Variable.stackPointer

variable {names : String → Prop} (supports : Supports names)

theorem local_operand {text : String} (readable : ∀ name ∈ Operand.variable? text, names name) :
    Exec.LocalTo names (operand text) := by
  apply Exec.local_read
  intro one other agree
  unfold Operand.variable? at readable
  unfold Operand.value
  split
  · rfl
  · rename_i notZero
    rw [if_neg notZero] at readable
    split
    · rename_i register
      rw [if_pos register] at readable
      exact agree.requireInt (readable text rfl)
    · rename_i noRegister
      rw [if_neg noRegister] at readable
      split
      · rename_i label
        rw [if_pos label] at readable
        exact agree.requireInt (readable _ rfl)
      · rfl

section

include supports

theorem local_pointer :
    Exec.LocalTo names (Exec.read (Scope.requireInt · Variable.instructionPointer)) :=
  Exec.local_read fun _ _ agree => agree.requireInt (supports.state _ (by decide))

theorem local_top :
    Exec.LocalTo names (Exec.read (Scope.requireInt · Variable.stackPointer)) :=
  Exec.local_read fun _ _ agree => agree.requireInt supports.stackPointer

theorem local_load (address : Word) :
    Exec.LocalTo names (Exec.read (Memory.load · address)) := by
  apply Exec.local_read
  intro one other agree
  unfold Memory.load
  rw [agree Variable.stack (supports.state _ (by decide)),
    agree Variable.memory (supports.state _ (by decide))]

theorem local_store (address : Word) (stored : Value) :
    Exec.LocalTo names (Memory.store address stored) := by
  apply Exec.local_change
  · intro one other agree
    unfold Memory.obstacle?
    rw [agree Variable.stack (supports.state _ (by decide)),
      agree Variable.memory (supports.state _ (by decide))]
  · intro one other agree
    unfold Memory.write
    split
    · exact agree.alter (supports.state _ (by decide)) _
    · exact agree.alter (supports.state _ (by decide)) _

theorem local_push (pushed : Value) : Exec.LocalTo names (Memory.push pushed) := by
  refine Exec.local_bind (local_top supports) fun pointer => ?_
  refine Exec.local_bind (Exec.local_arithmetic _) fun lowered => ?_
  exact Exec.local_bind (Exec.local_assign _ _) fun _ => local_store supports lowered pushed

theorem local_pop : Exec.LocalTo names Memory.pop := by
  refine Exec.local_bind (local_top supports) fun pointer => ?_
  have rest : Exec.LocalTo names (do
      let value ← Exec.read (Memory.load · pointer)
      Exec.assign Variable.stackPointer (.int (pointer + 1))
      return value) := by
    refine Exec.local_bind (local_load supports pointer) fun value => ?_
    exact Exec.local_bind (Exec.local_assign _ _) fun _ => Exec.local_pure value
  split
  · exact Exec.local_bind (Exec.local_throw _) fun _ => rest
  · exact rest

end

theorem local_jump (destination : Word) : Exec.LocalTo names (jump destination) :=
  Exec.local_bind (Exec.local_arithmetic _) fun _ => Exec.local_assign _ _

include supports

theorem local_moveOn : Exec.LocalTo names moveOn :=
  Exec.local_bind (local_pointer supports) fun _ => Exec.local_assign _ _

/-- An action can not tell scopes apart in which its operands mean the same. -/
theorem local_perform {action : Action}
    (readable : ∀ text ∈ action.sources, ∀ name ∈ Operand.variable? text, names name) :
    Exec.LocalTo names (perform action) := by
  have reads {text : String} (read : text ∈ action.sources) : Exec.LocalTo names (operand text) :=
    local_operand (readable text read)
  cases action with
  | idle => exact Exec.local_pure ()
  | halt => exact Exec.local_assign _ _
  | pause => exact Exec.local_assign _ _
  | ret => exact Exec.local_bind (local_pop supports) fun _ => Exec.local_assign _ _
  | push value =>
    exact Exec.local_bind (reads (.head _)) fun _ => local_push supports _
  | pop register => exact Exec.local_bind (local_pop supports) fun _ => Exec.local_assign _ _
  | jump destination => exact Exec.local_bind (reads (.head _)) fun _ => local_jump _
  | call destination =>
    refine Exec.local_bind (reads (.head _)) fun position => ?_
    refine Exec.local_bind (local_pointer supports) fun pointer => ?_
    exact Exec.local_bind (local_push supports _) fun _ => local_jump position
  | load register address =>
    refine Exec.local_bind (reads (.head _)) fun address => ?_
    exact Exec.local_bind (local_load supports address) fun _ => Exec.local_assign _ _
  | store address value =>
    refine Exec.local_bind (reads (.head _)) fun address => ?_
    refine Exec.local_bind (reads (.tail _ (.head _))) fun _ => ?_
    exact local_store supports address _
  | copy address origin =>
    refine Exec.local_bind (reads (.head _)) fun address => ?_
    refine Exec.local_bind (reads (.tail _ (.head _))) fun position => ?_
    exact Exec.local_bind (local_load supports position) fun _ => local_store supports address _
  | assign register value =>
    exact Exec.local_bind (reads (.head _)) fun _ => Exec.local_assign _ _
  | unary op register value =>
    refine Exec.local_bind (reads (.head _)) fun _ => ?_
    exact Exec.local_bind (Exec.local_arithmetic _) fun _ => Exec.local_assign _ _
  | binary op register left right =>
    refine Exec.local_bind (reads (.head _)) fun _ => ?_
    refine Exec.local_bind (reads (.tail _ (.head _))) fun _ => ?_
    exact Exec.local_bind (Exec.local_arithmetic _) fun _ => Exec.local_assign _ _
  | branch test destination left right =>
    refine Exec.local_bind (reads (.head _)) fun position => ?_
    refine Exec.local_bind (reads (.tail _ (.head _))) fun left => ?_
    refine Exec.local_bind (reads (.tail _ (.tail _ (.head _)))) fun right => ?_
    split
    · exact local_jump position
    · exact Exec.local_pure ()

/-- A turn can not tell scopes apart that hold the same program, if whatever is fetched from it has
operands that mean the same. -/
theorem endAlike_turn {one other : Scope} (agree : Scope.AgreeOn names one other)
    (sameProgram : one.get? Variable.program = other.get? Variable.program)
    (readable : ∀ position action, Fetch.action one position = .ok action →
      ∀ text ∈ action.sources, ∀ name ∈ Operand.variable? text, names name) :
    Exec.EndAlike names (turn.outcome one) (turn.outcome other) := by
  have fetched (position : Word) : Fetch.action one position = Fetch.action other position := by
    unfold Fetch.action Fetch.entry
    rw [sameProgram]
  rw [turn_eq]
  simp only [Exec.outcome_bind, Exec.outcome_read]
  rw [← agree.requireInt (supports.state Variable.instructionPointer (by decide))]
  rcases one.requireInt Variable.instructionPointer with error | pointer
  · exact ⟨rfl, agree⟩
  · simp only [← fetched]
    rcases found : Fetch.action one pointer with error | action
    · exact ⟨rfl, agree⟩
    · have performed := local_perform supports (readable pointer action found)
      have turned := Exec.local_bind performed (fun _ => local_moveOn supports) one other agree
      simpa only [Exec.outcome_bind] using turned

end Machine

end UrclDebugger
