import Mathlib
import UrclDebugger.Proofs.Machine.AddressSpace
import UrclDebugger.Proofs.Machine.Failure
import UrclDebugger.Proofs.Machine.Refinement

/-!
# What failed steps leave

A step of an assembled program that fails keeps the program's place: the instruction pointer, the
program, its labels and all registers but the stack pointer are as before. So are the stack pointer,
the stack and the memory, unless the instruction at the instruction pointer is a push or a call,
which may have lowered the pointer and stored a word there (`failed_step_keeps_place`).
-/

namespace UrclDebugger

/-- Only a push and a call put a word on the stack. -/
theorem Action.opcode_of_pushes {op : Opcode} {operands : List String} {action : Action}
    (found : of? op operands = some action) (pushes : action.pushes = true) :
    op = .psh ∨ op = .cal := by
  match operands with
  | [] => cases op <;> cases found <;> cases pushes
  | [_] => cases op <;> cases found <;> simp [Action.pushes] at pushes ⊢
  | [_, _] => cases op <;> cases found <;> cases pushes
  | [_, _, _] => cases op <;> cases found <;> cases pushes
  | _ :: _ :: _ :: _ :: _ => simp [of?] at found

namespace Memory

/-- What becomes of a scope when a push onto the given top does not come to its end, or what comes
after the push fails: the stack pointer is one lower, and nothing but the cell that it points to may
have changed. -/
structure HalfPushed (top : Word) (before after : Scope) : Prop where
  pointer : after.get? Variable.stackPointer = some (.int (top - 1))
  lower : (top - 1).toInt = top.toInt - 1
  elsewhere : ∀ address, address ≠ top - 1 → load after address = load before address
  /-- Cells between the old end of the stack and the cell at the pointer are filled with zero. -/
  stack : after.get? Variable.stack = before.get? Variable.stack ∨
    top - 1 < 0 ∧ ∃ cells grown : Array Value,
      before.get? Variable.stack = some (.list cells) ∧
      after.get? Variable.stack = some (.list grown) ∧
      ∀ index, index ≠ stackIndex (top - 1) → grown[index]? =
        if cells.size ≤ index ∧ index < stackIndex (top - 1) then some (.int 0) else cells[index]?
  memory : after.get? Variable.memory = before.get? Variable.memory ∨
    0 ≤ top - 1 ∧ ∃ cells written : FiniteMap Word Value,
      before.get? Variable.memory = some (.map cells) ∧
      after.get? Variable.memory = some (.map written) ∧
      ∀ address, address ≠ top - 1 → written.get? address = cells.get? address

section HalfPushed

variable {scope left : Scope} {cells : Array Value} {entries : FiniteMap Word Value} {top : Word}

/-- The stack pointer is in neither container. -/
theorem halfPushed_lowered (notLeast : top ≠ Int64.minValue) :
    HalfPushed top scope (scope.insert Variable.stackPointer (.int (top - 1))) where
  pointer := FiniteMap.get?_insert_self _ _ _
  lower := Word.toInt_sub_one notLeast
  elsewhere := fun address _ => load_eq_load (FiniteMap.get?_insert_of_ne _ _ (by decide))
    (FiniteMap.get?_insert_of_ne _ _ (by decide)) address
  stack := .inl (FiniteMap.get?_insert_of_ne _ _ (by decide))
  memory := .inl (FiniteMap.get?_insert_of_ne _ _ (by decide))

/-- A store at the lowered pointer leaves all other cells. -/
theorem HalfPushed.write (half : HalfPushed top scope left)
    (stack : scope.get? Variable.stack = some (.list cells))
    (memory : scope.get? Variable.memory = some (.map entries))
    (sameStack : left.get? Variable.stack = scope.get? Variable.stack)
    (sameMemory : left.get? Variable.memory = scope.get? Variable.memory) (value : Value) :
    HalfPushed top scope (write (top - 1) value left) where
  pointer := by rw [get?_write_of_ne (by decide) (by decide), half.pointer]
  lower := half.lower
  elsewhere := by
    intro address different
    rw [load_write_of_ne (sameStack.trans stack) (sameMemory.trans memory) different,
      half.elsewhere address different]
  stack := by
    by_cases below : top - 1 < 0
    · refine .inr ⟨below, cells, _, stack, get?_stack_write (sameStack.trans stack) below value, ?_⟩
      intro index different
      rw [getElem?_writeCell, if_neg different]
    · left
      rw [get?_stack_write_of_natural (Int64.not_lt.mp below), sameStack]
  memory := by
    by_cases below : top - 1 < 0
    · left
      rw [get?_memory_write_of_neg below, sameMemory]
    · have natural := Int64.not_lt.mp below
      refine .inr ⟨natural, entries, _, memory,
        get?_memory_write (sameMemory.trans memory) natural value, ?_⟩
      intro address different
      rw [FiniteMap.get?_insert_of_ne _ _ different]

/-- Half a push is seen by the stack and the memory only, so it may as well start from a scope that
is like the first in these. -/
theorem HalfPushed.of_alike {other : Scope} (half : HalfPushed top scope left)
    (stack : scope.get? Variable.stack = other.get? Variable.stack)
    (memory : scope.get? Variable.memory = other.get? Variable.memory) :
    HalfPushed top other left where
  pointer := half.pointer
  lower := half.lower
  elsewhere := fun address different =>
    (half.elsewhere address different).trans (load_eq_load stack memory address)
  stack := stack ▸ half.stack
  memory := memory ▸ half.memory

/-- What a push can have spilled. -/
theorem Spilled.nothing_or_halfPushed (spilled : Spilled scope left)
    (stack : scope.get? Variable.stack = some (.list cells))
    (memory : scope.get? Variable.memory = some (.map entries)) :
    left = scope ∨
      ∃ top, scope.get? Variable.stackPointer = some (.int top) ∧ HalfPushed top scope left := by
  cases spilled with
  | nothing => exact .inl rfl
  | lowered bound notLeast => exact .inr ⟨_, bound, halfPushed_lowered notLeast⟩
  | stored bound notLeast value =>
    exact .inr ⟨_, bound, (halfPushed_lowered notLeast).write stack memory
      (FiniteMap.get?_insert_of_ne _ _ (by decide)) (FiniteMap.get?_insert_of_ne _ _ (by decide))
      value⟩

/-- Nothing but the stack pointer, the stack and the memory can be spilled. -/
theorem Spilled.get? (spilled : Spilled scope left) {name : String}
    (notPointer : name ≠ Variable.stackPointer) (notStack : name ≠ Variable.stack)
    (notMemory : name ≠ Variable.memory) : left.get? name = scope.get? name := by
  cases spilled with
  | nothing => rfl
  | lowered _ _ => exact FiniteMap.get?_insert_of_ne _ _ notPointer
  | stored _ _ value =>
    rw [get?_write_of_ne notStack notMemory, FiniteMap.get?_insert_of_ne _ _ notPointer]

end HalfPushed

end Memory

namespace Machine

/-- The variables that a push works on. -/
def pushedVariables : List String := [Variable.stackPointer, Variable.stack, Variable.memory]

/-- The instruction at the instruction pointer is a push or a call. -/
def AtPush (program : Program) (scope : Scope) : Prop :=
  ∃ pointer instruction, scope.get? Variable.instructionPointer = some (.int pointer) ∧
    program.instruction? pointer = some instruction ∧
    (instruction.operation = "PSH" ∨ instruction.operation = "CAL")

/-- What a failed step of a program makes of a scope. -/
structure PlaceKept (program : Program) (before after : Scope) : Prop where
  others : ∀ name, name ∉ pushedVariables → name ≠ Variable.stepFlag → name ≠ Variable.breakFlag →
    after.get? name = before.get? name
  stepFlag : after.get? Variable.stepFlag = some (.bool true)
  breakFlag : after.get? Variable.breakFlag = some (.bool false)
  /-- The variables that a push works on are as before as well, or the instruction was a push or a
  call and is half done. -/
  pushed : (∀ name ∈ pushedVariables, after.get? name = before.get? name) ∨
    AtPush program before ∧ ∃ top, before.get? Variable.stackPointer = some (.int top) ∧
      Memory.HalfPushed top before after

end Machine

namespace Reference

open Machine

variable {program : Program} {scope left : Scope} {state : State} {error : ExecError}

/-- The end of a turn has no fault: it fails only where the instruction pointer is not a word. -/
theorem not_fault_of_moveOn (failed : moveOn.outcome scope = (.error error, left)) :
    ¬ Fault program error := by
  intro fault
  obtain unread | ⟨_, _, _, assigned⟩ := Exec.failed_part_of_outcome_bind failed
  · have pointer : scope.requireInt Variable.instructionPointer = .error error :=
      congrArg Prod.fst unread
    unfold Scope.requireInt at pointer
    split at pointer
    · contradiction
    · obtain rfl := Except.error.inj pointer
      nomatch fault
    · obtain unbound := Except.error.inj pointer
      cases fault with
      | undefinedLabel =>
        have same := ExecError.undefined.inj unbound
        exact Operand.labelVariable_ne_of_mem_own (by decide) _ same.symm
      | _ => contradiction
  · cases assigned

/-- Of an accepted program only push and call instructions are fetched as actions that push. -/
theorem Represents.atPush (accepted : program.Accepted) (represents : Represents program scope state)
    {action : Action} (taken : Fetch.action scope state.pointer = .ok action)
    (pushes : action.pushes = true) : AtPush program scope := by
  rw [Fetch.action_of_program represents.fixed.loaded] at taken
  cases here : program.instruction? state.pointer with
  | none =>
    rw [here] at taken
    contradiction
  | some instruction =>
    obtain ⟨op, decoded, named, _, found, _⟩ :=
      Instruction.exists_action (accepted instruction (Program.mem_of_instruction? here))
    rw [here] at taken
    obtain rfl := Except.ok.inj ((Fetch.decode_toValue named found _).symm.trans taken)
    refine ⟨state.pointer, instruction, represents.pointer, here, ?_⟩
    rw [← Opcode.mnemonic_of_ofMnemonic? named]
    obtain rfl | rfl := Action.opcode_of_pushes found pushes
    · exact .inl rfl
    · exact .inr rfl

/-- A step that fails leaves nothing but its flags, or its instruction pushes and the rest of what
it leaves is spilled. -/
theorem Represents.spilled_of_failed (accepted : program.Accepted)
    (represents : Represents program scope state)
    (failed : Engine.step scope = (.error error, left)) :
    left = Machine.prepared scope ∨
      AtPush program scope ∧ Memory.Spilled (Machine.prepared scope) left := by
  have fault : Fault program error :=
    (represents.step_agrees accepted).fault (congrArg Prod.fst failed)
  have running : state.halted = false := by
    cases halt : state.halted with
    | false => rfl
    | true =>
      rw [represents.step_of_halted accepted halt] at failed
      cases failed
  have pointed : (Machine.prepared scope).requireInt Variable.instructionPointer =
      .ok state.pointer := Scope.requireInt_eq_ok_iff.mpr represents.prepared.pointer
  rw [represents.step_of_running accepted running, turn_eq,
    Exec.outcome_bind_of_ok (Exec.outcome_read_of_ok pointed)] at failed
  -- the fetch, the action and the move of the pointer are the three places to fail at
  obtain unfetched | ⟨action, _, fetched, acted⟩ := Exec.failed_part_of_outcome_bind failed
  · exact .inl ((Exec.silent_read _).clean _ _ _ unfetched)
  obtain ⟨taken, rfl⟩ := Exec.outcome_read_eq_ok_iff.mp fetched
  obtain unperformed | ⟨_, _, _, unmoved⟩ := Exec.failed_part_of_outcome_bind acted
  · cases pushes : action.pushes with
    | false => exact .inl (clean_perform pushes _ _ _ unperformed)
    | true =>
      have here : Fetch.action scope state.pointer = .ok action := by
        rw [← taken, fetch_eq_fetch (get?_prepared (by decide) (by decide))]
      exact .inr ⟨represents.atPush accepted here pushes, spilled_of_perform unperformed⟩
  · exact absurd fault (not_fault_of_moveOn unmoved)

/-- A step that fails keeps the program's place. -/
theorem Represents.placeKept_of_failed (accepted : program.Accepted)
    (represents : Represents program scope state)
    (failed : Engine.step scope = (.error error, left)) : PlaceKept program scope left := by
  obtain ⟨cells, stack, _⟩ := represents.stack
  obtain ⟨entries, memory, _⟩ := represents.memory
  have flags {name : String} (pushed : name ∈ pushedVariables) :
      (Machine.prepared scope).get? name = scope.get? name := by
    have notFlags : ∀ other ∈ pushedVariables, other ≠ Variable.stepFlag ∧
      other ≠ Variable.breakFlag := by decide
    exact get?_prepared (notFlags name pushed).1 (notFlags name pushed).2
  have stepped := represents.spilled_of_failed accepted failed
  have others {name : String} (notPushed : name ∉ pushedVariables) :
      left.get? name = (Machine.prepared scope).get? name := by
    obtain rfl | ⟨_, spilled⟩ := stepped
    · rfl
    · simp only [pushedVariables, List.mem_cons, List.not_mem_nil, or_false, not_or] at notPushed
      exact spilled.get? notPushed.1 notPushed.2.1 notPushed.2.2
  constructor
  · intro name notPushed notStep notBreak
    rw [others notPushed, get?_prepared notStep notBreak]
  · rw [others (by decide), get?_stepFlag_prepared]
  · rw [others (by decide), Machine.prepared, FiniteMap.get?_insert_self]
  · obtain rfl | ⟨atPush, spilled⟩ := stepped
    · exact .inl fun name pushed => flags pushed
    · obtain rfl | ⟨top, bound, half⟩ := spilled.nothing_or_halfPushed
        ((flags (by decide)).trans stack) ((flags (by decide)).trans memory)
      · exact .inl fun name pushed => flags pushed
      · exact .inr ⟨atPush, top, (flags (by decide)).symm.trans bound,
          half.of_alike (flags (by decide)) (flags (by decide))⟩

end Reference

/-- A step of an assembled program that fails keeps the program's place. Only the flags of the step
are written: the instruction pointer, the halt flag, the program, the labels and the registers are
as before. The stack pointer, the stack and the memory are as before as well, unless the instruction
at the instruction pointer is a push or a call; then the stack pointer may be one lower, and nothing
but the cell that it points to may have changed. -/
theorem failed_step_keeps_place {source : Source} {program : Program} {scope : Scope}
    {error : ExecError} (urcl : source.extension? = some "urcl")
    (assembled : Program.assemble source.text = .ok program) (reachable : Reachable source scope)
    (failed : (Engine.step scope).1 = .error error) :
    Machine.PlaceKept program scope (Engine.step scope).2 := by
  obtain ⟨state, represents⟩ := Reference.exists_represents urcl assembled reachable
  have accepted := Program.accepted_of_assemble assembled
  exact represents.placeKept_of_failed accepted (Prod.ext failed rfl)

/-- A program that calls the least word, which no jump can reach. -/
def farCallSource : Source := .inline "far.urcl" "BSL R1 -1 63\nCAL R1"

/-- The program above with the call next. -/
def farCalling : Scope := (Engine.step (Engine.load (Engine.fresh : Scope) farCallSource).scope).2

/-- The call has put its position on the stack when its jump fails. -/
theorem failed_step_keeps_place_far :
    (Engine.step farCalling).1 = .error (.arithmetic .overflow) ∧
      (Engine.step farCalling).2.get? Variable.instructionPointer = some (.int 1) ∧
      (Engine.step farCalling).2.get? Variable.stack = some (.list #[.int 1]) ∧
      ∃ program, Machine.PlaceKept program farCalling (Engine.step farCalling).2 := by
  have urcl : farCallSource.extension? = some "urcl" := by decide
  obtain ⟨program, assembled⟩ : ∃ program, Program.assemble farCallSource.text = .ok program :=
    ⟨_, rfl⟩
  have reachable : Reachable farCallSource farCalling := Reachable.stepped Reachable.loaded
  have fails : (Engine.step farCalling).1 = .error (.arithmetic .overflow) := by cbv
  have kept := failed_step_keeps_place urcl assembled reachable fails
  have pointer : farCalling.get? Variable.instructionPointer = some (.int 1) := by cbv
  have pushed : (Engine.step farCalling).2.get? Variable.stack = some (.list #[.int 1]) := by cbv
  refine ⟨fails, ?_, pushed, program, kept⟩
  rw [kept.others _ (by decide) (by decide) (by decide), pointer]

end UrclDebugger
