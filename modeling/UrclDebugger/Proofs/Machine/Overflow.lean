import UrclDebugger.Proofs.Machine.Refinement
import UrclDebugger.Proofs.Machine.Unchecked

/-!
# Overflows

Sums, differences and products, and the decrements that a push and a jump make, are checked. They
end in an overflow exactly when the number that they stand for is no word
(`Reference.Represents.overflows_perform_iff`). With the arithmetic that is not checked this says
what becomes of every number that a step of an assembled program computes (`arithmetic_exact`).
-/

namespace UrclDebugger

namespace Exec

variable {α β : Type}

/-- In the scope the computation ends in an overflow. -/
def Overflows (computation : Exec α) (scope : Scope) : Prop :=
  (computation.outcome scope).1 = .error (.arithmetic .overflow)

section Overflows

variable {computation : Exec α} {rest : α → Exec β} {scope : Scope}

theorem overflows_bind_iff :
    Overflows (computation >>= rest) scope ↔ Overflows computation scope ∨
      ∃ result left, computation.outcome scope = (.ok result, left) ∧
        Overflows (rest result) left := by
  rw [Overflows, Overflows, outcome_bind]
  rcases computation.outcome scope with ⟨error | result, left⟩
  · simp
  · simp [Overflows]

/-- What is read is no result of arithmetic. -/
theorem overflows_read_bind_iff {f : Scope → Except ExecError α}
    (other : f scope ≠ .error (.arithmetic .overflow)) :
    Overflows (read f >>= rest) scope ↔
      ∃ result, f scope = .ok result ∧ Overflows (rest result) scope := by
  rw [Overflows, outcome_bind, outcome_read]
  rcases read : f scope with error | result
  · rw [read] at other
    simpa using other
  · simp [Overflows]

theorem not_overflows_assign (name : String) (value : Value) :
    ¬ Overflows (assign name value) scope := nofun

/-- A result that is assigned overflows where its operation does. -/
theorem overflows_arithmetic_bind_iff {result : Except ArithmeticError Word}
    {rest : Word → Exec β} (quiet : ∀ word, ¬ Overflows (rest word) scope) :
    Overflows (arithmetic result >>= rest) scope ↔ result = .error .overflow := by
  rw [Overflows, outcome_bind]
  cases result with
  | error error => simp
  | ok word => simpa [Overflows] using quiet word

end Overflows

end Exec

namespace Alu

/-- The number that an increment or a decrement of a word stands for. -/
def Unary.number? (op : Unary) (a : Word) : Option Int :=
  match op with
  | increment => some (a.toInt + 1)
  | decrement => some (a.toInt - 1)
  | _ => none

/-- The number that a sum, a difference or a product of words stands for. -/
def Binary.number? (op : Binary) (a b : Word) : Option Int :=
  match op with
  | add => some (a.toInt + b.toInt)
  | sub => some (a.toInt - b.toInt)
  | mul => some (a.toInt * b.toInt)
  | _ => none

theorem orOverflow_eq_overflow_iff {result : Option Word} :
    orOverflow result = .error .overflow ↔ result = none := by
  cases result <;> simp [orOverflow]

theorem shiftRight_ne_overflow (a count : Word) : shiftRight a count ≠ .error .overflow := by
  unfold shiftRight shiftCount
  split <;> nofun

/-- Left shifts apart, an operation on one word overflows where its number is no word. -/
theorem Unary.overflows_iff {op : Unary} (plain : op ≠ .shiftLeft) (a : Word) :
    op.apply a = .error .overflow ↔
      ∃ number, op.number? a = some number ∧ Word.ofInt? number = none := by
  cases op with
  | shiftLeft => contradiction
  | increment => exact orOverflow_eq_overflow_iff.trans (by simp [number?, Word.add?])
  | decrement => exact orOverflow_eq_overflow_iff.trans (by simp [number?, Word.sub?])
  | _ => simp [apply, number?]

/-- Divisions, remainders and left shifts apart, an operation on two words overflows where its
number is no word. -/
theorem Binary.overflows_iff {op : Binary} (plain : op ∉ [.div, .mod, .shiftLeft]) (a b : Word) :
    op.apply a b = .error .overflow ↔
      ∃ number, op.number? a b = some number ∧ Word.ofInt? number = none := by
  cases op with
  | div => simp at plain
  | mod => simp at plain
  | shiftLeft => simp at plain
  | add => exact orOverflow_eq_overflow_iff.trans (by simp [number?, Word.add?])
  | sub => exact orOverflow_eq_overflow_iff.trans (by simp [number?, Word.sub?])
  | mul => exact orOverflow_eq_overflow_iff.trans (by simp [number?, Word.mul?])
  | shiftRight => simp [apply, number?, shiftRight_ne_overflow]
  | _ => simp [apply, number?]

end Alu

/-- Divisions, remainders and left shifts, whose checks are about more than the number that they
stand for. -/
def Action.dividesOrShifts : Action → Bool
  | .unary op _ _ => op = .shiftLeft
  | .binary op _ _ _ => op ∈ [.div, .mod, .shiftLeft]
  | _ => false

namespace Machine

open Exec (Overflows)

/-- In the scope the action computes the number and checks that it is a word: a sum, a difference
or a product of operands, the place below the stack pointer, or the place before a destination that
is jumped to. A call jumps if there is room for its own position on the stack. -/
inductive Computes (scope : Scope) : Action → Int → Prop where
  | unary {op : Alu.Unary} {target value : String} {a : Word} {number : Int}
      (stands : Operand.value scope value = .ok a) (computed : op.number? a = some number) :
      Computes scope (.unary op target value) number
  | binary {op : Alu.Binary} {target left right : String} {a b : Word} {number : Int}
      (first : Operand.value scope left = .ok a) (second : Operand.value scope right = .ok b)
      (computed : op.number? a b = some number) :
      Computes scope (.binary op target left right) number
  | push {value : String} {word top : Word} (stands : Operand.value scope value = .ok word)
      (bound : scope.get? Variable.stackPointer = some (.int top)) :
      Computes scope (.push value) (top.toInt - 1)
  | call {destination : String} {position top : Word}
      (stands : Operand.value scope destination = .ok position)
      (bound : scope.get? Variable.stackPointer = some (.int top)) :
      Computes scope (.call destination) (top.toInt - 1)
  | transfer {destination : String} {position top : Word}
      (stands : Operand.value scope destination = .ok position)
      (bound : scope.get? Variable.stackPointer = some (.int top))
      (room : -1048576 ≤ top.toInt - 1) :
      Computes scope (.call destination) (position.toInt - 1)
  | jump {destination : String} {position : Word}
      (stands : Operand.value scope destination = .ok position) :
      Computes scope (.jump destination) (position.toInt - 1)
  | branch {test : Alu.Test} {destination left right : String} {position a b : Word}
      (stands : Operand.value scope destination = .ok position)
      (first : Operand.value scope left = .ok a) (second : Operand.value scope right = .ok b)
      (taken : test.holds a b = true) :
      Computes scope (.branch test destination left right) (position.toInt - 1)

/-- What an action computes depends on its operands and the stack pointer only. -/
theorem Computes.of_alike {one other : Scope} {action : Action} {number : Int}
    (operands : ∀ text, Operand.value one text = Operand.value other text)
    (pointer : one.get? Variable.stackPointer = other.get? Variable.stackPointer)
    (computes : Computes one action number) : Computes other action number := by
  cases computes with
  | unary stands computed => exact .unary (operands _ ▸ stands) computed
  | binary first second computed =>
    exact .binary (operands _ ▸ first) (operands _ ▸ second) computed
  | push stands bound => exact .push (operands _ ▸ stands) (pointer ▸ bound)
  | call stands bound => exact .call (operands _ ▸ stands) (pointer ▸ bound)
  | transfer stands bound room => exact .transfer (operands _ ▸ stands) (pointer ▸ bound) room
  | jump stands => exact .jump (operands _ ▸ stands)
  | branch stands first second taken =>
    exact .branch (operands _ ▸ stands) (operands _ ▸ first) (operands _ ▸ second) taken

theorem computes_prepared_iff {scope : Scope} {action : Action} {number : Int} :
    Computes (prepared scope) action number ↔ Computes scope action number := by
  have operands := operand_prepared scope
  have pointer : (prepared scope).get? Variable.stackPointer =
      scope.get? Variable.stackPointer := get?_prepared (by decide) (by decide)
  exact ⟨.of_alike operands pointer, .of_alike (fun text => (operands text).symm) pointer.symm⟩

section Parts

variable {β : Type} {scope : Scope}

theorem requireInt_ne_overflow (scope : Scope) (name : String) :
    scope.requireInt name ≠ .error (.arithmetic .overflow) := by
  unfold Scope.requireInt
  cases scope.get? name with
  | none => nofun
  | some value => cases value <;> nofun

theorem operand_ne_overflow (scope : Scope) (text : String) :
    Operand.value scope text ≠ .error (.arithmetic .overflow) := by
  unfold Operand.value
  split
  · nofun
  split
  · exact requireInt_ne_overflow scope _
  split
  · exact requireInt_ne_overflow scope _
  · split <;> nofun

theorem load_ne_overflow (scope : Scope) (address : Word) :
    Memory.load scope address ≠ .error (.arithmetic .overflow) := by
  unfold Memory.load
  split <;> split <;> nofun

theorem overflows_operand_bind_iff {text : String} {rest : Word → Exec β} :
    Overflows (operand text >>= rest) scope ↔
      ∃ word, Operand.value scope text = .ok word ∧ Overflows (rest word) scope :=
  Exec.overflows_read_bind_iff (operand_ne_overflow scope text)

theorem not_overflows_store (address : Word) (value : Value) :
    ¬ Overflows (Memory.store address value) scope := by
  intro overflows
  cases blocked : Memory.obstacle? address scope with
  | none =>
    rw [Overflows, Memory.store, Exec.outcome_change_of_none blocked] at overflows
    cases overflows
  | some error =>
    rw [Overflows, Memory.store, Exec.outcome_change_of_some blocked] at overflows
    obtain rfl := Except.error.inj overflows
    unfold Memory.obstacle? at blocked
    grind

theorem not_overflows_pop : ¬ Overflows Memory.pop scope := by
  intro overflows
  obtain ⟨pointer, read, rest⟩ :=
    (Exec.overflows_read_bind_iff (requireInt_ne_overflow scope _)).mp overflows
  split at rest
  · cases rest
  · obtain ⟨value, _, rest⟩ :=
      (Exec.overflows_read_bind_iff (load_ne_overflow scope pointer)).mp rest
    cases rest

theorem not_overflows_moveOn : ¬ Overflows moveOn scope := by
  intro overflows
  obtain ⟨pointer, _, rest⟩ :=
    (Exec.overflows_read_bind_iff (requireInt_ne_overflow scope _)).mp overflows
  cases rest

/-- A jump overflows where there is no place before its destination. -/
theorem overflows_jump_iff {destination : Word} :
    Overflows (jump destination) scope ↔ Word.ofInt? (destination.toInt - 1) = none :=
  (Exec.overflows_arithmetic_bind_iff fun _ => Exec.not_overflows_assign _ _).trans
    Alu.orOverflow_eq_overflow_iff

/-- A push overflows where there is no place below the stack pointer. -/
theorem overflows_push_iff {top : Word}
    (bound : scope.get? Variable.stackPointer = some (.int top)) (value : Value) :
    Overflows (Memory.push value) scope ↔ Word.ofInt? (top.toInt - 1) = none := by
  have pointer : scope.requireInt Variable.stackPointer = .ok top :=
    Scope.requireInt_eq_ok_iff.mpr bound
  have stored (lowered : Word) : ¬ Overflows (do
      Exec.assign Variable.stackPointer (.int lowered)
      Memory.store lowered value) scope := by
    intro overflows
    obtain assigned | ⟨_, _, _, rest⟩ := Exec.overflows_bind_iff.mp overflows
    · exact Exec.not_overflows_assign _ _ assigned
    · exact not_overflows_store lowered value rest
  rw [Memory.push, Exec.overflows_read_bind_iff (requireInt_ne_overflow scope _), pointer]
  constructor
  · rintro ⟨_, ⟨⟩, overflows⟩
    exact Alu.orOverflow_eq_overflow_iff.mp
      ((Exec.overflows_arithmetic_bind_iff stored).mp overflows)
  · intro none
    exact ⟨top, rfl, (Exec.overflows_arithmetic_bind_iff stored).mpr
      (Alu.orOverflow_eq_overflow_iff.mpr none)⟩

/-- An action on one word overflows where its operation does. -/
theorem overflows_unary_iff {op : Alu.Unary} {target value : String} :
    Overflows (perform (.unary op target value)) scope ↔
      ∃ word, Operand.value scope value = .ok word ∧ op.apply word = .error .overflow := by
  rw [perform, overflows_operand_bind_iff]
  refine exists_congr fun word => and_congr_right fun _ => ?_
  exact Exec.overflows_arithmetic_bind_iff fun _ => Exec.not_overflows_assign _ _

/-- An action on two words overflows where its operation does. -/
theorem overflows_binary_iff {op : Alu.Binary} {target left right : String} :
    Overflows (perform (.binary op target left right)) scope ↔
      ∃ a, Operand.value scope left = .ok a ∧ ∃ b, Operand.value scope right = .ok b ∧
        op.apply a b = .error .overflow := by
  rw [perform, overflows_operand_bind_iff]
  refine exists_congr fun a => and_congr_right fun _ => ?_
  rw [overflows_operand_bind_iff]
  refine exists_congr fun b => and_congr_right fun _ => ?_
  exact Exec.overflows_arithmetic_bind_iff fun _ => Exec.not_overflows_assign _ _

/-- A transfer overflows if it is taken and there is no place before its destination. -/
theorem overflows_branch_iff {test : Alu.Test} {destination left right : String} :
    Overflows (perform (.branch test destination left right)) scope ↔
      ∃ position, Operand.value scope destination = .ok position ∧
        ∃ a, Operand.value scope left = .ok a ∧ ∃ b, Operand.value scope right = .ok b ∧
          test.holds a b = true ∧ Word.ofInt? (position.toInt - 1) = none := by
  rw [perform, overflows_operand_bind_iff]
  refine exists_congr fun position => and_congr_right fun _ => ?_
  rw [overflows_operand_bind_iff]
  refine exists_congr fun a => and_congr_right fun _ => ?_
  rw [overflows_operand_bind_iff]
  refine exists_congr fun b => and_congr_right fun _ => ?_
  cases taken : test.holds a b with
  | true => simpa using overflows_jump_iff
  | false => exact iff_of_false (by rintro ⟨⟩) (by rintro ⟨⟨⟩, _⟩)

/-- What is popped is assigned, which never overflows. -/
theorem not_overflows_pop_assign (target : String) :
    ¬ Overflows (Memory.pop >>= fun value => Exec.assign target value) scope := by
  intro overflows
  obtain popped | ⟨_, _, _, rest⟩ := Exec.overflows_bind_iff.mp overflows
  · exact not_overflows_pop popped
  · exact Exec.not_overflows_assign _ _ rest

theorem not_overflows_load {target address : String} :
    ¬ Overflows (perform (.load target address)) scope := by
  intro overflows
  obtain ⟨word, _, rest⟩ := overflows_operand_bind_iff.mp overflows
  obtain ⟨value, _, rest⟩ :=
    (Exec.overflows_read_bind_iff (load_ne_overflow scope word)).mp rest
  exact Exec.not_overflows_assign _ _ rest

theorem not_overflows_copy {address source : String} :
    ¬ Overflows (perform (.copy address source)) scope := by
  intro overflows
  obtain ⟨_, _, rest⟩ := overflows_operand_bind_iff.mp overflows
  obtain ⟨word, _, rest⟩ := overflows_operand_bind_iff.mp rest
  obtain ⟨value, _, rest⟩ :=
    (Exec.overflows_read_bind_iff (load_ne_overflow scope word)).mp rest
  exact not_overflows_store _ _ rest

end Parts

end Machine

namespace Reference

open Machine
open Exec (Overflows)

section Step

variable {program : Program} {scope : Scope} {state : State}
  (represents : Represents program scope state)

include represents

/-- A push ends well exactly where there is room for one more cell. -/
theorem Represents.push_succeeds_iff (value : Value) :
    (∃ left, (Memory.push value).outcome scope = (.ok (), left)) ↔
      -1048576 ≤ state.stackPointer.toInt - 1 := by
  have bound := represents.stackPointer
  have free := represents.obstacle? (state.stackPointer - 1)
  constructor
  · rintro ⟨left, pushed⟩
    obtain ⟨notLeast, noObstacle, _⟩ := Memory.free_of_push bound pushed
    rw [noObstacle, Word.toInt_sub_one notLeast] at free
    split at free
    · contradiction
    · omega
  · intro room
    have notLeast : state.stackPointer ≠ Int64.minValue := by
      intro least
      rw [least, Int64.toInt_minValue] at room
      omega
    have lowered := represents.setStackPointer (state.stackPointer - 1)
    have noObstacle := lowered.obstacle? (state.stackPointer - 1)
    rw [Word.toInt_sub_one notLeast, if_neg (Int.not_lt.mpr room)] at noObstacle
    exact ⟨_, (Memory.outcome_push bound notLeast value).trans
      (Exec.outcome_change_of_none noObstacle _)⟩

/-- A call overflows if there is no place below the stack pointer, or if it comes to its jump and
there is no place before the destination. -/
theorem Represents.overflows_call_iff {destination : String} :
    Overflows (perform (.call destination)) scope ↔
      ∃ position, Operand.value scope destination = .ok position ∧
        (Word.ofInt? (state.stackPointer.toInt - 1) = none ∨
          -1048576 ≤ state.stackPointer.toInt - 1 ∧ Word.ofInt? (position.toInt - 1) = none) := by
  have bound := represents.stackPointer
  rw [perform, overflows_operand_bind_iff]
  refine exists_congr fun position => and_congr_right fun _ => ?_
  rw [Exec.overflows_read_bind_iff (requireInt_ne_overflow scope _),
    Scope.requireInt_eq_ok_iff.mpr represents.pointer]
  constructor
  · rintro ⟨_, ⟨⟩, overflows⟩
    obtain pushing | ⟨_, left, pushed, jumping⟩ := Exec.overflows_bind_iff.mp overflows
    · exact .inl ((overflows_push_iff bound _).mp pushing)
    · exact .inr ⟨(represents.push_succeeds_iff _).mp ⟨left, pushed⟩,
        overflows_jump_iff.mp jumping⟩
  · intro overflows
    refine ⟨state.pointer, rfl, Exec.overflows_bind_iff.mpr ?_⟩
    obtain noPlace | ⟨room, noPlace⟩ := overflows
    · exact .inl ((overflows_push_iff bound _).mpr noPlace)
    · obtain ⟨left, pushed⟩ := (represents.push_succeeds_iff (.int state.pointer)).mpr room
      exact .inr ⟨(), left, pushed, overflows_jump_iff.mpr noPlace⟩

/-- Divisions and left shifts apart, an action overflows exactly where a number that it computes is
no word. -/
theorem Represents.overflows_perform_iff {action : Action}
    (plain : action.dividesOrShifts = false) :
    Overflows (perform action) scope ↔
      ∃ number, Computes scope action number ∧ Word.ofInt? number = none := by
  have bound := represents.stackPointer
  cases action with
  -- First the actions that compute no number.
  | idle => exact iff_of_false nofun (by rintro ⟨_, ⟨⟩, _⟩)
  | halt => exact iff_of_false nofun (by rintro ⟨_, ⟨⟩, _⟩)
  | pause => exact iff_of_false nofun (by rintro ⟨_, ⟨⟩, _⟩)
  | ret => exact iff_of_false (not_overflows_pop_assign _) (by rintro ⟨_, ⟨⟩, _⟩)
  | pop target => exact iff_of_false (not_overflows_pop_assign _) (by rintro ⟨_, ⟨⟩, _⟩)
  | load target address => exact iff_of_false not_overflows_load (by rintro ⟨_, ⟨⟩, _⟩)
  | copy address source => exact iff_of_false not_overflows_copy (by rintro ⟨_, ⟨⟩, _⟩)
  | store address value =>
    refine iff_of_false (fun overflows => ?_) (by rintro ⟨_, ⟨⟩, _⟩)
    obtain ⟨_, _, rest⟩ := overflows_operand_bind_iff.mp overflows
    obtain ⟨_, _, rest⟩ := overflows_operand_bind_iff.mp rest
    exact not_overflows_store _ _ rest
  | assign target value =>
    refine iff_of_false (fun overflows => ?_) (by rintro ⟨_, ⟨⟩, _⟩)
    obtain ⟨_, _, rest⟩ := overflows_operand_bind_iff.mp overflows
    exact Exec.not_overflows_assign _ _ rest
  -- A number is computed once the operands have words.
  | push value =>
    rw [perform, overflows_operand_bind_iff]
    constructor
    · rintro ⟨word, stands, overflows⟩
      exact ⟨_, .push stands bound, (overflows_push_iff bound _).mp overflows⟩
    · rintro ⟨_, computes, noWord⟩
      cases computes with
      | push stands shown => exact ⟨_, stands, (overflows_push_iff shown _).mpr noWord⟩
  | jump destination =>
    rw [perform, overflows_operand_bind_iff]
    constructor
    · rintro ⟨position, stands, overflows⟩
      exact ⟨_, .jump stands, overflows_jump_iff.mp overflows⟩
    · rintro ⟨_, computes, noWord⟩
      cases computes with
      | jump stands => exact ⟨_, stands, overflows_jump_iff.mpr noWord⟩
  | call destination =>
    rw [represents.overflows_call_iff]
    constructor
    · rintro ⟨position, stands, noWord | ⟨room, noWord⟩⟩
      · exact ⟨_, .call stands bound, noWord⟩
      · exact ⟨_, .transfer stands bound room, noWord⟩
    · rintro ⟨_, computes, noWord⟩
      cases computes with
      | call stands shown =>
        obtain rfl := Value.int.inj (Option.some.inj (bound.symm.trans shown))
        exact ⟨_, stands, .inl noWord⟩
      | transfer stands shown room =>
        obtain rfl := Value.int.inj (Option.some.inj (bound.symm.trans shown))
        exact ⟨_, stands, .inr ⟨room, noWord⟩⟩
  | unary op target value =>
    rw [overflows_unary_iff]
    constructor
    · rintro ⟨word, stands, overflows⟩
      obtain ⟨number, computed, noWord⟩ :=
        (Alu.Unary.overflows_iff (of_decide_eq_false plain) word).mp overflows
      exact ⟨number, .unary stands computed, noWord⟩
    · rintro ⟨number, computes, noWord⟩
      cases computes with
      | unary stands computed =>
        exact ⟨_, stands, (Alu.Unary.overflows_iff (of_decide_eq_false plain) _).mpr
          ⟨number, computed, noWord⟩⟩
  | binary op target left right =>
    rw [overflows_binary_iff]
    constructor
    · rintro ⟨a, first, b, second, overflows⟩
      obtain ⟨number, computed, noWord⟩ :=
        (Alu.Binary.overflows_iff (of_decide_eq_false plain) a b).mp overflows
      exact ⟨number, .binary first second computed, noWord⟩
    · rintro ⟨number, computes, noWord⟩
      cases computes with
      | binary first second computed =>
        exact ⟨_, first, _, second, (Alu.Binary.overflows_iff (of_decide_eq_false plain) _ _).mpr
          ⟨number, computed, noWord⟩⟩
  | branch test destination left right =>
    rw [overflows_branch_iff]
    constructor
    · rintro ⟨position, stands, a, first, b, second, taken, noWord⟩
      exact ⟨_, .branch stands first second taken, noWord⟩
    · rintro ⟨_, computes, noWord⟩
      cases computes with
      | branch stands first second taken =>
        exact ⟨_, stands, _, first, _, second, taken, noWord⟩

/-- The move of the instruction pointer never overflows, so a step does exactly where its
instruction does. -/
theorem Represents.overflows_step_iff (held : scope.Genuine) {pointer : Word} {action : Action}
    (next : upcoming? scope = some (pointer, action)) (plain : action.dividesOrShifts = false) :
    (Engine.step scope).1 = .error (.arithmetic .overflow) ↔
      ∃ number, Computes scope action number ∧ Word.ofInt? number = none := by
  have performed : Overflows (perform action) (Machine.prepared scope) ↔
      ∃ number, Computes scope action number ∧ Word.ofInt? number = none := by
    rw [represents.prepared.overflows_perform_iff plain]
    exact exists_congr fun number => and_congr_left fun _ => computes_prepared_iff
  rw [step_of_upcoming held next, ← performed]
  refine Exec.overflows_bind_iff.trans (or_iff_left ?_)
  rintro ⟨_, left, _, moving⟩
  exact not_overflows_moveOn moving

end Step

end Reference

/-- The scopes of a run are scopes of a session. -/
theorem Reachable.visited {source : Source} {scope : Scope} (reachable : Reachable source scope) :
    Visited scope := by
  induction reachable with
  | loaded => exact .loaded .fresh source
  | stepped _ earlier => exact .stepped earlier

/-- What becomes of the numbers that a step of an assembled program computes. Where the machine adds
one to an address, to the stack pointer or to the instruction pointer, and where it shifts to the
right, it does not check its result. The exact machine does so with integers and lapses when the
result is no word or the count is out of range: unless the step is a return that finds the greatest
word on the stack, it does not lapse and ends as the step does; such a return it performs, and it
lapses when it moves the instruction pointer on. Sums, differences and products, and the decrements
of pushes, calls and jumps that are taken, are checked: the step ends in an overflow exactly when
the number is below or above all words. -/
theorem arithmetic_exact {source : Source} {program : Program} {scope : Scope}
    (urcl : source.extension? = some "urcl")
    (assembled : Program.assemble source.text = .ok program)
    (short : source.text.length < Word.positions) (reachable : Reachable source scope) :
    (¬ Machine.ReturnsToGreatest scope →
      (Exact.step Urcl.turnLimit).outcome scope = Exact.ended (Engine.step scope)) ∧
    (Machine.ReturnsToGreatest scope →
      ∃ left, (Machine.perform .ret).outcome (Machine.prepared scope) = (.ok (), left) ∧
        left.get? Variable.instructionPointer = some (.int Int64.maxValue) ∧
        (Exact.step Urcl.turnLimit).outcome scope = (.error .lapsed, left)) ∧
    ∀ pointer action, Machine.upcoming? scope = some (pointer, action) →
      action.dividesOrShifts = false →
      ((Engine.step scope).1 = .error (.arithmetic .overflow) ↔
        ∃ number, Machine.Computes scope action number ∧
          (number < -2 ^ 63 ∨ 2 ^ 63 ≤ number)) := by
  obtain ⟨state, represents⟩ := Reference.exists_represents urcl assembled reachable
  have held : scope.Genuine := genuine_of_visited reachable.visited
  have fits : program.instructions.size < Word.positions :=
    Nat.lt_of_le_of_lt (Program.size_instructions_le_of_assemble assembled) short
  refine ⟨represents.step_exact held fits, represents.step_lapses, ?_⟩
  intro pointer action next plain
  rw [represents.overflows_step_iff held next plain]
  refine exists_congr fun number => and_congr_right fun _ => ?_
  rw [Word.ofInt?_eq_none_iff, Int64.toInt_minValue, Int64.toInt_maxValue]
  omega

/-- A program that returns to the greatest word. -/
def farReturnSource : Source := .inline "far.urcl" "PSH 9223372036854775807\nRET"

/-- The program above with the return next. -/
def farReturning : Scope :=
  (Engine.step (Engine.load (Engine.fresh : Scope) farReturnSource).scope).2

/-- The exact machine lapses behind the return, where the machine goes on at the least word. -/
theorem arithmetic_exact_far :
    ∃ program, Program.assemble farReturnSource.text = .ok program ∧
      Reachable farReturnSource farReturning ∧ Machine.ReturnsToGreatest farReturning ∧
      (∃ left, left.get? Variable.instructionPointer = some (.int Int64.maxValue) ∧
        (Exact.step Urcl.turnLimit).outcome farReturning = (.error .lapsed, left)) ∧
      (Engine.step farReturning).2.get? Variable.instructionPointer =
        some (.int Int64.minValue) := by
  have urcl : farReturnSource.extension? = some "urcl" := by decide
  obtain ⟨program, assembled⟩ : ∃ program, Program.assemble farReturnSource.text = .ok program :=
    ⟨_, rfl⟩
  have short : farReturnSource.text.length < Word.positions := by decide
  have reachable : Reachable farReturnSource farReturning := Reachable.stepped Reachable.loaded
  have next : Machine.upcoming? farReturning = some (1, .ret) := by decide +kernel
  have top : farReturning.get? Variable.stackPointer = some (.int (-1)) := by decide +kernel
  have cell : Memory.load farReturning (-1) = .ok (.int Int64.maxValue) := by decide +kernel
  have returns : Machine.ReturnsToGreatest farReturning :=
    ⟨1, -1, next, top, by decide, cell⟩
  obtain ⟨left, _, greatest, lapses⟩ :=
    (arithmetic_exact urcl assembled short reachable).2.1 returns
  exact ⟨program, assembled, reachable, returns, ⟨left, greatest, lapses⟩, by decide +kernel⟩

end UrclDebugger
