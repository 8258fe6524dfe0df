import UrclDebugger.Proofs.Machine.Exact
import UrclDebugger.Proofs.Machine.Upcoming
import UrclDebugger.Proofs.Script.Decimal

/-!
# Where the exact machine lapses

In a run of an assembled program the exact machine lapses where a return finds the greatest word on
the stack, and nowhere else. An instruction is fetched from a position below the size of the
program, a jump sets the pointer to the place before a word, and nothing but a return can set it to
any word (`Machine.keepsMovable_perform`).
-/

namespace UrclDebugger

namespace Machine

open Exact (Movable)

section Keeps

/-- What a computation leaves in a scope with a movable instruction pointer has one again. -/
abbrev KeepsMovable (computation : Exec Unit) : Prop :=
  Exec.Keeps Movable (fun _ => True) computation

/-- Whatever is read, the scope stays. -/
theorem keepsMovable_read {α : Type} (f : Scope → Except ExecError α) :
    Exec.Keeps Movable (fun _ => True) (Exec.read f) :=
  Exec.keeps_read fun _ _ _ _ => trivial

theorem movable_insert_of_ne {scope : Scope} {name : String} (movable : Movable scope)
    (other : name ≠ Variable.instructionPointer) (value : Value) :
    Movable (scope.insert name value) := by
  rw [Movable, FiniteMap.get?_insert_of_ne _ _ (Ne.symm other)]
  exact movable

theorem keepsMovable_assign {name : String} (other : name ≠ Variable.instructionPointer)
    (value : Value) : KeepsMovable (Exec.assign name value) :=
  Exec.keeps_assign fun _ movable => movable_insert_of_ne movable other value

theorem keepsMovable_store (address : Word) (value : Value) :
    KeepsMovable (Memory.store address value) := by
  refine Exec.keeps_change fun scope movable _ => ?_
  rw [Movable, Memory.get?_write_of_ne (by decide) (by decide)]
  exact movable

theorem keepsMovable_push (value : Value) : KeepsMovable (Memory.push value) := by
  refine Exec.keeps_bind (keepsMovable_read _) fun pointer _ => ?_
  refine Exec.keeps_bind (Exec.keeps_arithmetic _) fun lowered _ => ?_
  refine Exec.keeps_bind (keepsMovable_assign (by decide) _) fun _ _ => ?_
  exact keepsMovable_store lowered value

theorem keepsMovable_pop : Exec.Keeps Movable (fun _ => True) Memory.pop := by
  refine Exec.keeps_bind (keepsMovable_read _) fun pointer _ => ?_
  have rest : Exec.Keeps Movable (fun _ => True) (do
      let value ← Exec.read (Memory.load · pointer)
      Exec.assign Variable.stackPointer (.int (pointer + 1))
      return value) := by
    refine Exec.keeps_bind (keepsMovable_read _) fun value _ => ?_
    exact Exec.keeps_bind (keepsMovable_assign (by decide) _) fun _ _ => Exec.keeps_pure trivial
  split
  · have failed : KeepsMovable (throw .stackUnderflow) := Exec.keeps_throw _
    exact Exec.keeps_bind failed fun _ _ => rest
  · exact rest

/-- The place before a destination is not the greatest word. -/
theorem keeps_lowered (destination : Word) :
    Exec.Keeps Movable (· ≠ Int64.maxValue)
      (Exec.arithmetic (Alu.Binary.sub.apply destination 1)) := by
  intro scope movable
  rw [Alu.Binary.apply, Word.sub?_one]
  split
  · refine ⟨movable, ?_⟩
    rintro _ ⟨⟩
  · rename_i notLeast
    refine ⟨movable, fun short lowered => ?_⟩
    obtain rfl : destination - 1 = short := Except.ok.inj lowered
    intro greatest
    have before := Word.toInt_sub_one notLeast
    have bounded := Int64.toInt_lt destination
    rw [greatest, Int64.toInt_maxValue] at before
    omega

theorem keepsMovable_jump (destination : Word) : KeepsMovable (jump destination) := by
  refine Exec.keeps_bind (keeps_lowered destination) fun short notGreatest => ?_
  refine Exec.keeps_assign fun scope _ => ?_
  rw [Movable, FiniteMap.get?_insert_self]
  rintro ⟨⟩
  exact notGreatest rfl

/-- An action other than a return, with a register for its target, sets the instruction pointer to
the place before a destination or leaves it. -/
theorem keepsMovable_perform {action : Action} (notReturn : action ≠ .ret)
    (register : ∀ target ∈ action.target?, target ≠ Variable.instructionPointer) :
    KeepsMovable (perform action) := by
  cases action with
  | idle => exact Exec.keeps_pure trivial
  | halt => exact keepsMovable_assign (by decide) _
  | pause => exact keepsMovable_assign (by decide) _
  | ret => contradiction
  | push value => exact Exec.keeps_bind (keepsMovable_read _) fun word _ => keepsMovable_push _
  | pop target =>
    exact Exec.keeps_bind keepsMovable_pop fun _ _ => keepsMovable_assign (register _ rfl) _
  | jump destination =>
    exact Exec.keeps_bind (keepsMovable_read _) fun position _ => keepsMovable_jump position
  | call destination =>
    refine Exec.keeps_bind (keepsMovable_read _) fun position _ => ?_
    refine Exec.keeps_bind (keepsMovable_read _) fun pointer _ => ?_
    exact Exec.keeps_bind (keepsMovable_push _) fun _ _ => keepsMovable_jump position
  | load target address =>
    refine Exec.keeps_bind (keepsMovable_read _) fun address _ => ?_
    exact Exec.keeps_bind (keepsMovable_read _) fun _ _ => keepsMovable_assign (register _ rfl) _
  | store address value =>
    refine Exec.keeps_bind (keepsMovable_read _) fun address _ => ?_
    exact Exec.keeps_bind (keepsMovable_read _) fun word _ => keepsMovable_store address _
  | copy address source =>
    refine Exec.keeps_bind (keepsMovable_read _) fun address _ => ?_
    refine Exec.keeps_bind (keepsMovable_read _) fun source _ => ?_
    exact Exec.keeps_bind (keepsMovable_read _) fun value _ => keepsMovable_store address value
  | assign target value =>
    exact Exec.keeps_bind (keepsMovable_read _) fun _ _ => keepsMovable_assign (register _ rfl) _
  | unary op target value =>
    refine Exec.keeps_bind (keepsMovable_read _) fun word _ => ?_
    exact Exec.keeps_bind (Exec.keeps_arithmetic _) fun _ _ =>
      keepsMovable_assign (register _ rfl) _
  | binary op target left right =>
    refine Exec.keeps_bind (keepsMovable_read _) fun left _ => ?_
    refine Exec.keeps_bind (keepsMovable_read _) fun right _ => ?_
    exact Exec.keeps_bind (Exec.keeps_arithmetic _) fun _ _ =>
      keepsMovable_assign (register _ rfl) _
  | branch test destination left right =>
    refine Exec.keeps_bind (keepsMovable_read _) fun position _ => ?_
    refine Exec.keeps_bind (keepsMovable_read _) fun left _ => ?_
    refine Exec.keeps_bind (keepsMovable_read _) fun right _ => ?_
    split
    · exact keepsMovable_jump position
    · exact Exec.keeps_pure trivial

end Keeps

/-- The next instruction is a return, and the stack pointer is the address of the greatest word. -/
def ReturnsToGreatest (scope : Scope) : Prop :=
  ∃ pointer top, upcoming? scope = some (pointer, .ret) ∧
    scope.get? Variable.stackPointer = some (.int top) ∧ top < 0 ∧
    Memory.load scope top = .ok (.int Int64.maxValue)

end Machine

namespace Reference

open Machine

section Step

variable {program : Program} {scope : Scope} {state : State}

section Return

variable (represents : Represents program scope state)
include represents

/-- A return sets the instruction pointer to the word at the stack pointer. -/
theorem Represents.outcome_ret (negative : state.stackPointer < 0) :
    (perform .ret).outcome scope =
      (.ok (), (scope.insert Variable.stackPointer (.int (state.stackPointer + 1))).insert
        Variable.instructionPointer (.int (state.memory state.stackPointer))) :=
  Exec.outcome_bind_of_ok
    (Memory.outcome_pop_of_neg represents.stackPointer negative (represents.load _))

/-- Without a negative stack pointer there is nothing to return to. -/
theorem Represents.outcome_ret_of_natural (natural : 0 ≤ state.stackPointer) :
    (perform .ret).outcome scope = (.error .stackUnderflow, scope) :=
  Exec.outcome_bind_of_error (Memory.outcome_pop_of_natural represents.stackPointer natural)

end Return

/-- An instruction that is fetched has a position that is not the greatest word. -/
theorem ne_greatest_of_fetched (fits : program.instructions.size < Word.positions)
    (loaded : scope.get? Variable.program =
      some (.list (program.instructions.map Instruction.toValue)))
    {pointer : Word} {action : Action} (fetched : Fetch.action scope pointer = .ok action) :
    pointer ≠ Int64.maxValue := by
  rw [Fetch.action_of_program loaded] at fetched
  cases here : program.instruction? pointer with
  | none =>
    rw [here] at fetched
    contradiction
  | some instruction =>
    obtain ⟨index, isIndex, found⟩ := Option.bind_eq_some_iff.mp here
    obtain ⟨inside, _⟩ := Array.getElem?_eq_some_iff.mp found
    have position := Word.toIndex?_eq_some_iff.mp isIndex
    rintro rfl
    rw [Int64.toInt_maxValue] at position
    unfold Word.positions at fits
    omega

variable (represents : Represents program scope state) (held : scope.Genuine)
include represents held

/-- Unless a return finds the greatest word, the instruction of a step leaves a pointer that can be
moved on. -/
theorem Represents.movable_of_performed (fits : program.instructions.size < Word.positions)
    (regular : ¬ ReturnsToGreatest scope) {pointer : Word} {action : Action}
    (next : upcoming? scope = some (pointer, action)) {left : Scope}
    (performed : (perform action).outcome (Machine.prepared scope) = (.ok (), left)) :
    Exact.Movable left := by
  have ready := represents.prepared
  obtain ⟨_, _, bound, fetched⟩ := upcoming?_eq_some_iff.mp next
  by_cases returns : action = .ret
  -- A return leaves the word that it pops in the pointer, whatever that is.
  · subst returns
    rcases Int64.lt_or_le state.stackPointer 0 with negative | natural
    · rw [ready.outcome_ret negative] at performed
      obtain rfl := congrArg Prod.snd performed
      intro same
      have greatest := Option.some.inj ((FiniteMap.get?_insert_self _ _ _).symm.trans same)
      have read := represents.load state.stackPointer
      rw [greatest] at read
      exact regular ⟨pointer, state.stackPointer, next, represents.stackPointer, negative, read⟩
    · rw [ready.outcome_ret_of_natural natural] at performed
      cases performed
  -- No other action can bring the pointer to the greatest word, and it has not been there before.
  · have register : ∀ target ∈ action.target?, target ≠ Variable.instructionPointer :=
      fun target assigned =>
        Variable.ne_of_not_mem_own (target_not_mem_own held next assigned) (by decide)
    have movable : Exact.Movable (Machine.prepared scope) := by
      rw [Exact.Movable, get?_prepared (by decide) (by decide), bound]
      rintro ⟨⟩
      exact ne_greatest_of_fetched fits represents.fixed.loaded fetched rfl
    have kept := (keepsMovable_perform returns register (Machine.prepared scope) movable).1
    rw [performed] at kept
    exact kept

/-- Unless a return finds the greatest word, a step of the exact machine is a step. -/
theorem Represents.step_exact (fits : program.instructions.size < Word.positions)
    (regular : ¬ ReturnsToGreatest scope) :
    (Exact.step Urcl.turnLimit).outcome scope = Exact.ended (Engine.step scope) := by
  obtain ⟨limit, enough⟩ : ∃ limit, Urcl.turnLimit = limit + 1 :=
    Nat.exists_eq_add_one_of_ne_zero (by decide)
  have stepped : Engine.step scope = (Machine.step (limit + 1)).outcome scope := by
    rw [← enough]
    rfl
  rw [enough, stepped]
  refine Exact.step_agrees limit (fun running => ?_) fun left turned => ?_
  · refine Exact.turn_agrees fun pointer action left bound fetched performed => ?_
    have entry := represents.prepared.fixed.entry
    have next : upcoming? scope = some (pointer, action) := by
      rw [← upcoming?_prepared]
      exact upcoming?_eq_some_iff.mpr ⟨entry, running, bound, fetched⟩
    exact represents.movable_of_performed held fits regular next performed
  · have flag := stepFlag_of_turn held turned
    simp [pauses, Scope.isSet, flag, Value.isTruthy]

omit held in
/-- Where a return finds the greatest word the exact machine performs it and lapses then. -/
theorem Represents.step_lapses (returns : ReturnsToGreatest scope) :
    ∃ left, (perform .ret).outcome (Machine.prepared scope) = (.ok (), left) ∧
      left.get? Variable.instructionPointer = some (.int Int64.maxValue) ∧
      (Exact.step Urcl.turnLimit).outcome scope = (.error .lapsed, left) := by
  obtain ⟨pointer, top, next, stack, negative, read⟩ := returns
  have entry : scope.get? Variable.entry = some (.routine Variable.entry) :=
    (upcoming?_eq_some_iff.mp next).1
  rw [← upcoming?_prepared] at next
  obtain ⟨_, running, bound, fetched⟩ := upcoming?_eq_some_iff.mp next
  obtain rfl : state.stackPointer = top :=
    Value.int.inj (Option.some.inj (represents.stackPointer.symm.trans stack))
  have greatest : state.memory state.stackPointer = Int64.maxValue :=
    Value.int.inj (Except.ok.inj ((represents.load _).symm.trans read))
  have returned := represents.prepared.outcome_ret negative
  rw [greatest] at returned
  obtain ⟨limit, enough⟩ : ∃ limit, Urcl.turnLimit = limit + 1 :=
    Nat.exists_eq_add_one_of_ne_zero (by decide)
  refine ⟨_, returned, FiniteMap.get?_insert_self _ _ _, ?_⟩
  have lapses := Exact.turn_lapses bound fetched returned (FiniteMap.get?_insert_self _ _ _)
  rw [enough, Exact.step_lapses limit entry running lapses]

end Step

end Reference

end UrclDebugger
