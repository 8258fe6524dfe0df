import UrclDebugger.Proofs.Machine.Decoding

/-!
# Genuine values

Objects come into a scope in one way only, as instructions of an assembled program, and the
assembler accepts every instruction before it is bound. A value is genuine when all objects in it,
at any depth of lists and maps, are such instructions. What is fetched from a scope that holds only
genuine values is therefore an admissible action, whatever the program variable is bound to.
-/

namespace UrclDebugger

/-- All objects in a value are accepted instructions. -/
inductive Value.Genuine : Value → Prop where
  | int (word : Word) : Genuine (.int word)
  | bool (flag : Bool) : Genuine (.bool flag)
  | text (content : String) : Genuine (.text content)
  | list {items : Array Value} (each : ∀ item ∈ items, Genuine item) : Genuine (.list items)
  | map {cells : FiniteMap Word Value}
      (each : ∀ address value, cells.get? address = some value → Genuine value) :
      Genuine (.map cells)
  | object {fields : FiniteMap String Value} (instruction : Instruction)
      (accepted : instruction.rejection? = none) (shape : .object fields = instruction.toValue) :
      Genuine (.object fields)
  | routine (name : String) : Genuine (.routine name)
  | absent : Genuine .absent

/-- All values in a scope are genuine. -/
def Scope.Genuine (scope : Scope) : Prop :=
  ∀ name value, scope.get? name = some value → value.Genuine

namespace Value

/-- A list is genuine when the item at every index is. -/
theorem genuine_list_iff {items : Array Value} :
    (Value.list items).Genuine ↔
      ∀ (index : Nat) (item : Value), items[index]? = some item → item.Genuine := by
  constructor
  · intro genuine index item here
    cases genuine with
    | list each => exact each item (Array.mem_of_getElem? here)
  · intro each
    refine .list fun item member => ?_
    obtain ⟨index, here⟩ := Array.getElem?_of_mem member
    exact each index item here

theorem Genuine.get? {cells : FiniteMap Word Value} (genuine : (Value.map cells).Genuine)
    {address : Word} {value : Value} (here : cells.get? address = some value) :
    value.Genuine := by
  cases genuine with
  | map each => exact each address value here

theorem genuine_toValue {instruction : Instruction} (accepted : instruction.rejection? = none) :
    instruction.toValue.Genuine :=
  .object instruction accepted rfl

/-- The fields of an instruction are texts and a list of texts. -/
theorem Genuine.field? {base value : Value} (genuine : base.Genuine) {name : String}
    (here : base.field? name = some value) : value.Genuine := by
  cases genuine with
  | object instruction accepted shape =>
    rw [shape] at here
    simp only [Instruction.toValue, Value.field?, FiniteMap.ofList, List.foldl_cons, List.foldl_nil,
      FiniteMap.get?_insert, FiniteMap.get?_empty] at here
    split at here
    · obtain rfl := Option.some.inj here
      refine .list fun item member => ?_
      obtain ⟨operand, _, rfl⟩ := List.mem_map.mp (List.mem_toArray.mp member)
      exact .text operand
    split at here
    · obtain rfl := Option.some.inj here
      exact .text _
    split at here
    · obtain rfl := Option.some.inj here
      exact .text _
    · contradiction
  | _ => contradiction

/-- A list of genuine values stays one when an item is replaced by a genuine value. -/
theorem Genuine.setIfInBounds {items : Array Value} (genuine : (Value.list items).Genuine)
    (index : Nat) {value : Value} (new : value.Genuine) :
    (Value.list (items.setIfInBounds index value)).Genuine := by
  refine genuine_list_iff.mpr fun other item here => ?_
  rw [Array.getElem?_setIfInBounds] at here
  split at here
  · split at here
    · obtain rfl := Option.some.inj here
      exact new
    · contradiction
  · exact genuine_list_iff.mp genuine other item here

theorem genuine_emptyList : (Value.list #[]).Genuine :=
  .list fun _ member => absurd member (Array.not_mem_empty _)

theorem genuine_emptyMap : (Value.map ∅).Genuine :=
  .map fun address _ here => nomatch (FiniteMap.get?_empty address).symm.trans here

/-- A map of genuine values stays one when a cell is bound to a genuine value. -/
theorem Genuine.insert {cells : FiniteMap Word Value} (genuine : (Value.map cells).Genuine)
    (address : Word) {value : Value} (new : value.Genuine) :
    (Value.map (FiniteMap.insert cells address value)).Genuine := by
  refine .map fun other found here => ?_
  rw [FiniteMap.get?_insert] at here
  split at here
  · obtain rfl := Option.some.inj here
    exact new
  · exact genuine.get? here

end Value

namespace Scope

theorem genuine_empty : Genuine ∅ := nofun

theorem Genuine.insert {scope : Scope} (genuine : scope.Genuine) (name : String) {value : Value}
    (new : value.Genuine) : Genuine (scope.insert name value) := by
  intro other found here
  rw [FiniteMap.get?_insert] at here
  split at here
  · obtain rfl := Option.some.inj here
    exact new
  · exact genuine other found here

end Scope

/-- What is decoded from a genuine value is admissible. -/
theorem Fetch.admissible_of_decode {item : Value} (genuine : item.Genuine) {position : Word}
    {action : Action} (decoded : decode item position = .ok action) : action.Admissible := by
  cases genuine with
  | object instruction accepted shape =>
    obtain ⟨op, expected, named, _, found, admissible⟩ := Instruction.exists_action accepted
    rw [shape, decode_toValue named found] at decoded
    obtain rfl := Except.ok.inj decoded
    exact admissible
  | _ => contradiction

/-- What is fetched from a genuine scope is admissible, whatever the program variable holds. -/
theorem Fetch.admissible_of_genuine {scope : Scope} (genuine : scope.Genuine) {position : Word}
    {action : Action} (fetched : Fetch.action scope position = .ok action) :
    action.Admissible := by
  unfold Fetch.action at fetched
  split at fetched
  · rename_i item found
    refine admissible_of_decode ?_ fetched
    unfold entry at found
    split at found
    · contradiction
    · rename_i program bound
      split at found
      · rename_i here
        obtain rfl := Except.ok.inj found
        obtain ⟨items, isList, inside⟩ := Option.bind_eq_some_iff.mp here
        obtain ⟨index, _, listed⟩ := Option.bind_eq_some_iff.mp inside
        have whole := genuine _ _ bound
        cases program with
        | list all =>
          obtain rfl := Option.some.inj isList
          exact Value.genuine_list_iff.mp whole _ _ listed
        | _ => contradiction
      · contradiction
  · contradiction

section Load

variable {program : Program} {scope : Scope}

/-- Bindings made one after another keep a scope genuine. -/
theorem Scope.Genuine.foldl {α : Type} {bind : Scope → α → Scope}
    (kept : ∀ scope item, scope.Genuine → (bind scope item).Genuine) (items : Array α)
    (genuine : scope.Genuine) : (items.foldl bind scope).Genuine := by
  rw [← Array.foldl_toList]
  generalize items.toList = listed
  induction listed generalizing scope with
  | nil => exact genuine
  | cons item rest ih => exact ih (kept scope item genuine)

/-- Loading an accepted program keeps a scope genuine. -/
theorem Program.genuine_bind (accepted : program.Accepted) (genuine : scope.Genuine) :
    (program.bind scope).Genuine := by
  have state : (bindState scope).Genuine :=
    genuine
      |>.insert Variable.memory Value.genuine_emptyMap
      |>.insert Variable.instructionPointer (.int 0)
      |>.insert Variable.haltFlag (.bool false)
      |>.insert Variable.breakFlag (.bool false)
      |>.insert Variable.stepFlag (.bool false)
      |>.insert Variable.stack Value.genuine_emptyList
  have registers : (program.bindRegisters (bindState scope)).Genuine :=
    state.foldl (fun _ register held => held.insert register (.int 0)) _
  have labels : (program.bindLabels (program.bindRegisters (bindState scope))).Genuine :=
    registers.foldl (fun _ label held => held.insert _ (.int (Int64.ofNat label.2))) _
  have listed : (Value.list (program.instructions.map Instruction.toValue)).Genuine := by
    refine .list fun item member => ?_
    obtain ⟨instruction, present, rfl⟩ := Array.mem_map.mp member
    exact Value.genuine_toValue (accepted instruction present)
  exact (labels.insert Variable.program listed).insert Variable.entry (.routine Variable.entry)

end Load

end UrclDebugger
