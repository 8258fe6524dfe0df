import UrclDebugger.Proofs.Machine.Effects
import UrclDebugger.Proofs.Provenance.Value

/-!
# Values that instructions move

Instructions compute words and move values between registers, the stack and the memory. None of
this makes an object, so in a genuine scope a turn leaves a genuine scope, also one that fails half
way.
-/

namespace UrclDebugger

namespace Machine

section Keeps

/-- What a computation leaves in a genuine scope is genuine. -/
abbrev KeepsGenuine (computation : Exec Unit) : Prop :=
  Exec.Keeps Scope.Genuine (fun _ => True) computation

theorem keeps_operand (text : String) :
    Exec.Keeps Scope.Genuine (fun _ => True) (operand text) :=
  Exec.keeps_read fun _ _ _ _ => trivial

theorem keeps_word (name : String) :
    Exec.Keeps Scope.Genuine (fun _ => True) (Exec.read (Scope.requireInt · name)) :=
  Exec.keeps_read fun _ _ _ _ => trivial

theorem keepsGenuine_assign (name : String) {value : Value} (new : value.Genuine) :
    KeepsGenuine (Exec.assign name value) :=
  Exec.keeps_assign fun _ held => held.insert name new

/-- What is loaded comes out of the stack or the memory, or is zero. -/
theorem keeps_load (address : Word) :
    Exec.Keeps Scope.Genuine Value.Genuine (Exec.read (Memory.load · address)) := by
  refine Exec.keeps_read fun scope held value loaded => ?_
  unfold Memory.load at loaded
  split at loaded
  · split at loaded
    · rename_i cells bound
      obtain rfl := Except.ok.inj loaded
      cases here : cells[Memory.stackIndex address]? with
      | none => exact .int 0
      | some value => exact Value.genuine_list_iff.mp (held _ _ bound) _ value here
    · contradiction
    · contradiction
  · split at loaded
    · rename_i cells bound
      obtain rfl := Except.ok.inj loaded
      cases here : cells.get? address with
      | none => exact .int 0
      | some value => exact (held _ _ bound).get? here
    · contradiction
    · contradiction

/-- A cell that is written to a list of genuine values, and the zeros before it, are genuine. -/
theorem genuine_writeCell {cells : Array Value} (genuine : (Value.list cells).Genuine) (index : Nat)
    {value : Value} (new : value.Genuine) :
    (Value.list (Memory.writeCell cells index value)).Genuine := by
  refine Value.genuine_list_iff.mpr fun other item here => ?_
  rw [Memory.getElem?_writeCell] at here
  split at here
  · obtain rfl := Option.some.inj here
    exact new
  split at here
  · obtain rfl := Option.some.inj here
    exact .int 0
  · exact Value.genuine_list_iff.mp genuine other item here

theorem keepsGenuine_store (address : Word) {value : Value} (new : value.Genuine) :
    KeepsGenuine (Memory.store address value) := by
  refine Exec.keeps_change fun scope held _ => ?_
  unfold Memory.write
  split
  · rw [FiniteMap.alter_eq_insert]
    refine held.insert _ ?_
    cases bound : scope.get? Variable.stack with
    | none => exact Value.genuine_emptyList
    | some old =>
      have genuine := held _ _ bound
      cases old with
      | list cells => exact genuine_writeCell genuine _ new
      | _ => exact genuine
  · rw [FiniteMap.alter_eq_insert]
    refine held.insert _ ?_
    cases bound : scope.get? Variable.memory with
    | none => exact Value.genuine_emptyMap.insert address new
    | some old =>
      have genuine := held _ _ bound
      cases old with
      | map cells => exact genuine.insert address new
      | _ => exact genuine

theorem keepsGenuine_push {value : Value} (new : value.Genuine) :
    KeepsGenuine (Memory.push value) := by
  refine Exec.keeps_bind (keeps_word _) fun pointer _ => ?_
  refine Exec.keeps_bind (Exec.keeps_arithmetic _) fun lowered _ => ?_
  exact Exec.keeps_bind (keepsGenuine_assign _ (.int lowered)) fun _ _ =>
    keepsGenuine_store lowered new

theorem keeps_pop : Exec.Keeps Scope.Genuine Value.Genuine Memory.pop := by
  refine Exec.keeps_bind (keeps_word _) fun pointer _ => ?_
  have rest : Exec.Keeps Scope.Genuine Value.Genuine (do
      let value ← Exec.read (Memory.load · pointer)
      Exec.assign Variable.stackPointer (.int (pointer + 1))
      return value) := by
    refine Exec.keeps_bind (keeps_load pointer) fun value genuine => ?_
    exact Exec.keeps_bind (keepsGenuine_assign _ (.int _)) fun _ _ => Exec.keeps_pure genuine
  split
  · have failed : KeepsGenuine (throw .stackUnderflow) := Exec.keeps_throw _
    exact Exec.keeps_bind failed fun _ _ => rest
  · exact rest

theorem keepsGenuine_jump (destination : Word) : KeepsGenuine (jump destination) :=
  Exec.keeps_bind (Exec.keeps_arithmetic _) fun short _ => keepsGenuine_assign _ (.int short)

/-- Actions move values and compute words. -/
theorem keepsGenuine_perform (action : Action) : KeepsGenuine (perform action) := by
  cases action with
  | idle => exact Exec.keeps_pure trivial
  | halt => exact keepsGenuine_assign _ (.bool true)
  | pause => exact keepsGenuine_assign _ (.bool true)
  | ret => exact Exec.keeps_bind keeps_pop fun _ genuine => keepsGenuine_assign _ genuine
  | push value =>
    exact Exec.keeps_bind (keeps_operand value) fun word _ => keepsGenuine_push (.int word)
  | pop target => exact Exec.keeps_bind keeps_pop fun _ genuine => keepsGenuine_assign _ genuine
  | jump destination =>
    exact Exec.keeps_bind (keeps_operand destination) fun position _ => keepsGenuine_jump position
  | call destination =>
    refine Exec.keeps_bind (keeps_operand destination) fun position _ => ?_
    refine Exec.keeps_bind (keeps_word _) fun pointer _ => ?_
    exact Exec.keeps_bind (keepsGenuine_push (.int pointer)) fun _ _ => keepsGenuine_jump position
  | load target address =>
    refine Exec.keeps_bind (keeps_operand address) fun address _ => ?_
    exact Exec.keeps_bind (keeps_load address) fun _ genuine => keepsGenuine_assign _ genuine
  | store address value =>
    refine Exec.keeps_bind (keeps_operand address) fun address _ => ?_
    exact Exec.keeps_bind (keeps_operand value) fun word _ => keepsGenuine_store address (.int word)
  | copy address source =>
    refine Exec.keeps_bind (keeps_operand address) fun address _ => ?_
    refine Exec.keeps_bind (keeps_operand source) fun source _ => ?_
    exact Exec.keeps_bind (keeps_load source) fun _ genuine => keepsGenuine_store address genuine
  | assign target value =>
    exact Exec.keeps_bind (keeps_operand value) fun word _ => keepsGenuine_assign _ (.int word)
  | unary op target value =>
    refine Exec.keeps_bind (keeps_operand value) fun word _ => ?_
    exact Exec.keeps_bind (Exec.keeps_arithmetic _) fun result _ =>
      keepsGenuine_assign _ (.int result)
  | binary op target left right =>
    refine Exec.keeps_bind (keeps_operand left) fun left _ => ?_
    refine Exec.keeps_bind (keeps_operand right) fun right _ => ?_
    exact Exec.keeps_bind (Exec.keeps_arithmetic _) fun result _ =>
      keepsGenuine_assign _ (.int result)
  | branch test destination left right =>
    refine Exec.keeps_bind (keeps_operand destination) fun position _ => ?_
    refine Exec.keeps_bind (keeps_operand left) fun left _ => ?_
    refine Exec.keeps_bind (keeps_operand right) fun right _ => ?_
    split
    · exact keepsGenuine_jump position
    · exact Exec.keeps_pure trivial

theorem keepsGenuine_turn : KeepsGenuine turn := by
  rw [turn_eq]
  refine Exec.keeps_bind (keeps_word _) fun pointer _ => ?_
  have fetched : Exec.Keeps Scope.Genuine (fun _ => True)
      (Exec.read (Fetch.action · pointer)) := Exec.keeps_read fun _ _ _ _ => trivial
  refine Exec.keeps_bind fetched fun action _ => ?_
  refine Exec.keeps_bind (keepsGenuine_perform action) fun _ _ => ?_
  exact Exec.keeps_bind (keeps_word _) fun pointer _ => keepsGenuine_assign _ (.int _)

end Keeps

end Machine

end UrclDebugger
