import UrclDebugger.Proofs.Machine.Frame
import UrclDebugger.Proofs.Machine.PushPop

/-!
# The stack discipline

As long as a program leaves the stack pointer to pushes, pops, calls and returns and stores to no
negative address, its stack is a list of words: pushes and calls append, pops and returns take the
last word, and nothing else touches it. The list of cells behind it never shrinks, so there may be
cells that no longer count. A return takes the position that its call has left, whatever was pushed
and called in between (`stack_last_in_first_out`).
-/

namespace UrclDebugger.Machine

open Memory (stackLimit)

/-- Cells that begin with words. There may be more of them. -/
def Holds (cells : Array Value) (words : List Word) : Prop :=
  ∀ index (inside : index < words.length), cells[index]? = some (.int words[index])

/-- The words on the stack of a scope, the top one last. The stack pointer counts them and the cells
begin with them. -/
structure Stacked (scope : Scope) (words : List Word) : Prop where
  fits : words.length ≤ stackLimit
  pointer : ∃ top, scope.get? Variable.stackPointer = some (.int top) ∧ top.toInt = -words.length
  cells : ∃ cells, scope.get? Variable.stack = some (.list cells) ∧ Holds cells words

section Cells

variable {cells : Array Value} {words : List Word} {word : Word}

/-- A word that is written behind others is one more of them. -/
theorem Holds.append (holds : Holds cells words) (word : Word) :
    Holds (Memory.writeCell cells words.length (.int word)) (words ++ [word]) := by
  intro index inside
  rw [Memory.getElem?_writeCell]
  by_cases last : index = words.length
  · subst last
    simp
  · have earlier : index < words.length := by
      rw [List.length_append, List.length_singleton] at inside
      omega
    have here := holds index earlier
    have present : index < cells.size := (Array.getElem?_eq_some_iff.mp here).1
    rw [if_neg last, if_neg (by omega), here, List.getElem_append_left earlier]

theorem Holds.of_append (holds : Holds cells (words ++ [word])) : Holds cells words := by
  intro index inside
  have longer : index < (words ++ [word]).length := by
    rw [List.length_append]
    omega
  rw [holds index longer, List.getElem_append_left inside]

theorem Holds.last (holds : Holds cells (words ++ [word])) :
    cells[words.length]? = some (.int word) := by
  have inside : words.length < (words ++ [word]).length := by simp
  rw [holds words.length inside]
  simp

end Cells

section Pointer

variable {top : Word} {count : Nat} (counts : top.toInt = -count) (fits : count ≤ stackLimit)

include counts fits

/-- The address below the words on the stack is that of the next cell. -/
theorem below_of_counts :
    top ≠ Int64.minValue ∧ (top - 1).toInt = top.toInt - 1 ∧ top - 1 < 0 ∧
      Memory.stackIndex (top - 1) = count := by
  unfold Memory.stackLimit at fits
  have notLeast : top ≠ Int64.minValue := by
    rintro rfl
    rw [Int64.toInt_minValue] at counts
    omega
  have lowered : (top - 1).toInt = top.toInt - 1 := Word.toInt_sub_one notLeast
  have negative : top - 1 < 0 := Int64.lt_iff_toInt_lt.mpr (by rw [lowered]; simp; omega)
  have place := Memory.stackIndex_of_neg negative
  exact ⟨notLeast, lowered, negative, by omega⟩

end Pointer

section Stacked

variable {scope other : Scope} {words : List Word} {word : Word}

/-- The words on the stack are decided by the stack pointer and the cells. -/
theorem Stacked.of_eq (stacked : Stacked scope words)
    (pointer : other.get? Variable.stackPointer = scope.get? Variable.stackPointer)
    (stack : other.get? Variable.stack = scope.get? Variable.stack) : Stacked other words where
  fits := stacked.fits
  pointer := pointer ▸ stacked.pointer
  cells := stack ▸ stacked.cells

theorem Stacked.insert (stacked : Stacked scope words) {name : String}
    (notPointer : name ≠ Variable.stackPointer) (notStack : name ≠ Variable.stack)
    (value : Value) : Stacked (scope.insert name value) words :=
  stacked.of_eq (FiniteMap.get?_insert_of_ne _ _ notPointer.symm)
    (FiniteMap.get?_insert_of_ne _ _ notStack.symm)

theorem stacked_prepared (stacked : Stacked scope words) : Stacked (prepared scope) words :=
  (stacked.insert (by decide) (by decide) _).insert (by decide) (by decide) _

/-- There is room for a word, or the stack is full. -/
theorem Stacked.room_or_full (stacked : Stacked scope words) :
    words.length < stackLimit ∨ words.length = stackLimit :=
  Nat.lt_or_eq_of_le stacked.fits

/-- As long as there is room a push appends a word. -/
theorem Stacked.outcome_push (stacked : Stacked scope words) (room : words.length < stackLimit)
    (word : Word) : ∃ left, (Memory.push (.int word)).outcome scope = (.ok (), left) ∧
      Stacked left (words ++ [word]) := by
  obtain ⟨top, bound, counts⟩ := stacked.pointer
  obtain ⟨cells, held, holds⟩ := stacked.cells
  obtain ⟨notLeast, lowered, negative, index⟩ := below_of_counts counts stacked.fits
  let moved : Scope := scope.insert Variable.stackPointer (.int (top - 1))
  have kept : moved.get? Variable.stack = some (.list cells) := by
    rw [FiniteMap.get?_insert_of_ne _ _ (by decide), held]
  have free : Memory.obstacle? (top - 1) moved = none := by
    have inside : ¬ stackLimit ≤ words.length := Nat.not_le.mpr room
    rw [Memory.obstacle?, if_pos negative, index, if_neg inside, kept]
  have pushed : (Memory.push (.int word)).outcome scope =
      (.ok (), Memory.write (top - 1) (.int word) moved) :=
    (Memory.outcome_push bound notLeast _).trans (Exec.outcome_change_of_none free _)
  refine ⟨_, pushed, ?_, ⟨top - 1, ?_, ?_⟩, _, ?_, holds.append word⟩
  · rw [List.length_append, List.length_singleton]
    exact room
  · rw [Memory.get?_write_of_ne (by decide) (by decide), FiniteMap.get?_insert_self]
  · rw [lowered, List.length_append, List.length_singleton]
    omega
  · rw [Memory.get?_stack_write kept negative, index]

/-- On a full stack there is no room for a push. -/
theorem Stacked.outcome_push_of_full (stacked : Stacked scope words)
    (full : words.length = stackLimit) (word : Word) :
    ∃ address left, (Memory.push (.int word)).outcome scope =
      (.error (.stackAddress address), left) := by
  obtain ⟨top, bound, counts⟩ := stacked.pointer
  obtain ⟨notLeast, _, negative, index⟩ := below_of_counts counts stacked.fits
  have blocked (moved : Scope) :
      Memory.obstacle? (top - 1) moved = some (.stackAddress (top - 1)) := by
    rw [Memory.obstacle?, if_pos negative, index, if_pos (Nat.le_of_eq full.symm)]
  have failed := (Memory.outcome_push bound notLeast (.int word)).trans
    (Exec.outcome_change_of_some (blocked _) _)
  exact ⟨top - 1, _, failed⟩

/-- A pop takes the last word. -/
theorem Stacked.outcome_pop (stacked : Stacked scope (words ++ [word])) :
    ∃ top, Memory.pop.outcome scope =
        (.ok (.int word), scope.insert Variable.stackPointer (.int top)) ∧
      Stacked (scope.insert Variable.stackPointer (.int top)) words := by
  obtain ⟨top, bound, counts⟩ := stacked.pointer
  obtain ⟨cells, held, holds⟩ := stacked.cells
  have fits := stacked.fits
  rw [List.length_append, List.length_singleton] at counts fits
  have negative : top < 0 := Int64.lt_iff_toInt_lt.mpr (by simp; omega)
  have index : Memory.stackIndex top = words.length := by
    have place := Memory.stackIndex_of_neg negative
    omega
  have read : Memory.load scope top = .ok (.int word) := by
    rw [Memory.load, if_pos negative, held]
    simp only [index, holds.last, Option.getD_some]
  have notGreatest : top ≠ Int64.maxValue := by
    rintro rfl
    contradiction
  have raised : (top + 1).toInt = top.toInt + 1 := Word.toInt_add_one notGreatest
  refine ⟨top + 1, Memory.outcome_pop_of_neg bound negative read, by omega, ⟨top + 1, ?_, ?_⟩,
    cells, ?_, holds.of_append⟩
  · exact FiniteMap.get?_insert_self _ _ _
  · omega
  · rw [FiniteMap.get?_insert_of_ne _ _ (by decide), held]

/-- Nothing is popped from an empty stack. -/
theorem Stacked.outcome_pop_of_empty (stacked : Stacked scope []) :
    Memory.pop.outcome scope = (.error .stackUnderflow, scope) := by
  obtain ⟨top, bound, counts⟩ := stacked.pointer
  have natural : 0 ≤ top := Int64.le_iff_toInt_le.mpr (by simp [counts])
  exact Memory.outcome_pop_of_natural bound natural

/-- A push that ends well has appended its word. -/
theorem Stacked.of_pushed (stacked : Stacked scope words) {left : Scope}
    (pushed : (Memory.push (.int word)).outcome scope = (.ok (), left)) :
    Stacked left (words ++ [word]) := by
  by_cases room : words.length < stackLimit
  · obtain ⟨_, same, after⟩ := stacked.outcome_push room word
    rw [pushed] at same
    cases same
    exact after
  · have full : words.length = stackLimit := Nat.le_antisymm stacked.fits (Nat.not_lt.mp room)
    obtain ⟨_, _, failed⟩ := stacked.outcome_push_of_full full word
    rw [pushed] at failed
    cases failed

/-- A pop that ends well has taken the last word. -/
theorem Stacked.of_popped (stacked : Stacked scope words) {value : Value} {left : Scope}
    (popped : Memory.pop.outcome scope = (.ok value, left)) :
    ∃ word, words = words.dropLast ++ [word] ∧ value = .int word ∧ Stacked left words.dropLast := by
  by_cases empty : words = []
  · subst empty
    rw [stacked.outcome_pop_of_empty] at popped
    cases popped
  · have whole := (List.dropLast_concat_getLast empty).symm
    rw [whole] at stacked
    obtain ⟨_, same, after⟩ := stacked.outcome_pop
    rw [popped] at same
    cases same
    exact ⟨_, whole, rfl, after⟩

end Stacked

/-- An action leaves the stack to pushes, pops, calls and returns: it assigns no stack pointer and
stores to no negative address. -/
structure Disciplined (scope : Scope) (action : Action) : Prop where
  target : Variable.stackPointer ∉ action.target?
  address : ∀ address ∈ action.storedAt?, ∀ word, Operand.value scope address = .ok word → 0 ≤ word

/-- An action that stores nothing is disciplined as long as it does not assign the stack pointer. -/
theorem disciplined_of_storedAt?_eq_none {scope : Scope} {action : Action}
    (target : Variable.stackPointer ∉ action.target?) (stored : action.storedAt? = none) :
    Disciplined scope action where
  target := target
  address _ named := absurd (stored ▸ named) (Option.not_mem_none _)

/-- What an action at a position makes of the words on the stack. -/
def wordsOf (scope : Scope) (pointer : Word) (words : List Word) : Action → List Word
  | .push source => words ++ (Operand.value scope source).toOption.toList
  | .call _ => words ++ [pointer]
  | .pop _ | .ret => words.dropLast
  | _ => words

/-- What the next step makes of the words on the stack. -/
def wordsAfter (scope : Scope) (words : List Word) : List Word :=
  match upcoming? scope with
  | some (pointer, action) => wordsOf scope pointer words action
  | none => words

section Perform

variable {scope left : Scope} {words : List Word} {action : Action} {pointer : Word}

theorem disciplined_prepared (disciplined : Disciplined scope action) :
    Disciplined (prepared scope) action where
  target := disciplined.target
  address address named word stands :=
    disciplined.address address named word ((operand_prepared scope address).symm.trans stands)

theorem wordsOf_prepared (scope : Scope) (pointer : Word) (words : List Word) (action : Action) :
    wordsOf (prepared scope) pointer words action = wordsOf scope pointer words action := by
  cases action with
  | push source => rw [wordsOf, wordsOf, operand_prepared]
  | _ => rfl

variable (stacked : Stacked scope words) (disciplined : Disciplined scope action)
  (notOwn : ∀ target ∈ action.target?, target ∉ Variable.own)
  (performed : (perform action).outcome scope = (.ok (), left))

include stacked disciplined notOwn performed

/-- Other actions do not touch the words on the stack. -/
theorem Stacked.of_ordinary (ordinary : action.movesPointer = false) : Stacked left words := by
  have ends : left = ((perform action).outcome scope).2 := (congrArg Prod.snd performed).symm
  refine stacked.of_eq ?_ ?_
  · rw [ends]
    exact get?_of_perform ordinary (by decide) (by decide) (by decide) disciplined.target
      fun _ _ word _ value => Memory.leaves_store (by decide) (by decide) word value
  · rw [ends]
    have notTarget : Variable.stack ∉ action.target? :=
      fun assigned => notOwn _ assigned (by decide)
    exact get?_of_perform ordinary (by decide) (by decide) (by decide) notTarget
      fun address named word stands value =>
        Memory.leaves_stack_store (disciplined.address address named word stands) value

/-- An action that ends well makes of the words what it is said to. -/
theorem Stacked.of_performed (here : scope.get? Variable.instructionPointer = some (.int pointer)) :
    Stacked left (wordsOf scope pointer words action) := by
  cases action with
  | push source =>
    obtain ⟨word, _, read, pushed⟩ := Exec.exists_of_outcome_bind performed
    obtain ⟨stands, rfl⟩ := Exec.outcome_read_eq_ok_iff.mp read
    have one : (Operand.value scope source).toOption.toList = [word] := by
      rw [stands]
      rfl
    rw [wordsOf, one]
    exact stacked.of_pushed pushed
  | call destination =>
    obtain ⟨position, _, read, called⟩ := Exec.exists_of_outcome_bind performed
    obtain ⟨_, rfl⟩ := Exec.outcome_read_eq_ok_iff.mp read
    obtain ⟨place, _, pointed, moved⟩ := Exec.exists_of_outcome_bind called
    obtain ⟨bound, rfl⟩ := Exec.outcome_read_eq_ok_iff.mp pointed
    obtain ⟨_, middle, pushed, jumped⟩ := Exec.exists_of_outcome_bind moved
    obtain rfl : pointer = place := by
      simpa using here.symm.trans (Scope.requireInt_eq_ok_iff.mp bound)
    have ends : left = ((jump position).outcome middle).2 := (congrArg Prod.snd jumped).symm
    have after : Stacked middle (words ++ [pointer]) := stacked.of_pushed pushed
    rw [ends]
    exact after.of_eq (leaves_jump (by decide) position middle)
      (leaves_jump (by decide) position middle)
  | pop target =>
    obtain ⟨value, middle, popped, assigned⟩ := Exec.exists_of_outcome_bind performed
    obtain ⟨_, _, _, after⟩ := stacked.of_popped popped
    obtain rfl : middle.insert target value = left := congrArg Prod.snd assigned
    refine after.insert ?_ ?_ value
    · rintro rfl
      exact disciplined.target rfl
    · rintro rfl
      exact notOwn _ rfl (by decide)
  | ret =>
    obtain ⟨value, middle, popped, assigned⟩ := Exec.exists_of_outcome_bind performed
    obtain ⟨_, _, _, after⟩ := stacked.of_popped popped
    obtain rfl : middle.insert Variable.instructionPointer value = left :=
      congrArg Prod.snd assigned
    exact after.insert (by decide) (by decide) value
  | _ => exact stacked.of_ordinary disciplined notOwn performed rfl

end Perform

/-- What fails on an empty stack and ends well on any other underflows exactly on an empty one. -/
theorem underflows_iff {words : List Word} {result : Except ExecError Unit}
    (fails : words = [] → result = .error .stackUnderflow)
    (succeeds : ∀ rest word, words = rest ++ [word] → result = .ok ()) :
    result = .error .stackUnderflow ↔ words = [] := by
  refine ⟨fun failed => Decidable.byContradiction fun some => ?_, fails⟩
  have whole := (List.dropLast_concat_getLast some).symm
  rw [succeeds _ _ whole] at failed
  cases failed

section Step

variable {scope : Scope} {words : List Word} {pointer : Word} (held : scope.Genuine)
  (stacked : Stacked scope words)

include held stacked

/-- A disciplined step that ends well makes of the words what it is said to. -/
theorem Stacked.step (disciplined : ∀ pointer action, upcoming? scope = some (pointer, action) →
      Disciplined scope action) (succeeds : (Engine.step scope).1 = .ok ()) :
    Stacked (Engine.step scope).2 (wordsAfter scope words) := by
  obtain ⟨pointer, action, next⟩ | ⟨none, stepped⟩ := upcoming_or_halted_of_step held succeeds
  · obtain ⟨left, place, performed, _, stepped⟩ := performed_of_step held next succeeds
    obtain ⟨_, _, bound, _⟩ := upcoming?_eq_some_iff.mp next
    have here : (prepared scope).get? Variable.instructionPointer = some (.int pointer) := by
      rw [get?_prepared (by decide) (by decide), bound]
    have notOwn (target : String) (assigned : target ∈ action.target?) : target ∉ Variable.own :=
      target_not_mem_own held next assigned
    have after := (stacked_prepared stacked).of_performed
      (disciplined_prepared (disciplined _ _ next)) notOwn performed here
    rw [wordsOf_prepared] at after
    rw [wordsAfter, next, stepped]
    exact after.insert (by decide) (by decide) _
  · rw [wordsAfter, none, stepped]
    exact stacked_prepared stacked

/-- A push instruction whose operand has a word ends well as long as there is room, and fails for
lack of room on a full stack only. -/
theorem Stacked.step_push {source : String} {word : Word}
    (next : upcoming? scope = some (pointer, .push source))
    (stands : Operand.value scope source = .ok word) :
    (words.length < stackLimit → (Engine.step scope).1 = .ok ()) ∧
      ((∃ address, (Engine.step scope).1 = .error (.stackAddress address)) ↔
        words.length = stackLimit) := by
  have reads : (operand source).outcome (prepared scope) = (.ok word, prepared scope) :=
    Exec.outcome_read_of_ok ((operand_prepared scope source).trans stands)
  have pushes {result : Except ExecError Unit} {left : Scope}
      (pushed : (Memory.push (.int word)).outcome (prepared scope) = (result, left)) :
      (perform (.push source)).outcome (prepared scope) = (result, left) :=
    (Exec.outcome_bind_of_ok reads).trans pushed
  have ready := stacked_prepared stacked
  have roomy (room : words.length < stackLimit) : (Engine.step scope).1 = .ok () := by
    obtain ⟨left, pushed, _⟩ := ready.outcome_push room word
    obtain ⟨_, _, bound, _⟩ := upcoming?_eq_some_iff.mp next
    have here : left.get? Variable.instructionPointer = some (.int pointer) := by
      rw [Memory.get?_of_push pushed (by decide) (by decide) (by decide),
        get?_prepared (by decide) (by decide), bound]
    rw [step_of_performed held next (pushes pushed) here]
  refine ⟨roomy, ?_, fun full => ?_⟩
  · rintro ⟨address, failed⟩
    refine stacked.room_or_full.resolve_left fun room => ?_
    rw [roomy room] at failed
    cases failed
  · obtain ⟨address, left, failed⟩ := ready.outcome_push_of_full full word
    exact ⟨address, by rw [step_of_failed held next (pushes failed)]⟩

/-- A call whose operand has a word ends well as long as there is room, unless there is no place
before its destination, and fails for lack of room on a full stack only. -/
theorem Stacked.step_call {destination : String} {word : Word}
    (next : upcoming? scope = some (pointer, .call destination))
    (stands : Operand.value scope destination = .ok word) :
    (words.length < stackLimit → word ≠ Int64.minValue → (Engine.step scope).1 = .ok ()) ∧
      ((∃ address, (Engine.step scope).1 = .error (.stackAddress address)) ↔
        words.length = stackLimit) := by
  obtain ⟨_, _, bound, _⟩ := upcoming?_eq_some_iff.mp next
  have reads : (operand destination).outcome (prepared scope) = (.ok word, prepared scope) :=
    Exec.outcome_read_of_ok ((operand_prepared scope destination).trans stands)
  have pointed : (prepared scope).requireInt Variable.instructionPointer = .ok pointer := by
    rw [Scope.requireInt, get?_prepared (by decide) (by decide), bound]
  have calls : (perform (.call destination)).outcome (prepared scope) =
      (do Memory.push (.int pointer); jump word).outcome (prepared scope) :=
    (Exec.outcome_bind_of_ok reads).trans
      (Exec.outcome_bind_of_ok (Exec.outcome_read_of_ok pointed))
  have ready := stacked_prepared stacked
  have full (none : words.length = stackLimit) :
      ∃ address, (Engine.step scope).1 = .error (.stackAddress address) := by
    obtain ⟨address, left, failed⟩ := ready.outcome_push_of_full none pointer
    have ends := calls.trans (Exec.outcome_bind_of_error failed)
    exact ⟨address, by rw [step_of_failed held next ends]⟩
  have roomy (room : words.length < stackLimit) :
      (Engine.step scope).1 =
        if word = Int64.minValue then .error (.arithmetic .overflow) else .ok () := by
    obtain ⟨left, pushed, _⟩ := ready.outcome_push room pointer
    have jumps := calls.trans (Exec.outcome_bind_of_ok pushed)
    by_cases least : word = Int64.minValue
    · subst least
      rw [outcome_jump_of_least] at jumps
      rw [step_of_failed held next jumps, if_pos rfl]
    · rw [outcome_jump least] at jumps
      rw [step_of_performed held next jumps (FiniteMap.get?_insert_self _ _ _), if_neg least]
  refine ⟨fun room notLeast => (roomy room).trans (if_neg notLeast), ?_, full⟩
  rintro ⟨address, failed⟩
  refine stacked.room_or_full.resolve_left fun room => ?_
  rw [roomy room] at failed
  split at failed <;> cases failed

/-- A pop instruction fails for an empty stack and else delivers the last word. -/
theorem Stacked.step_pop {target : String}
    (next : upcoming? scope = some (pointer, .pop target)) :
    ((Engine.step scope).1 = .error .stackUnderflow ↔ words = []) ∧
      ∀ rest word, words = rest ++ [word] → (Engine.step scope).1 = .ok () ∧
        (Engine.step scope).2.get? target = some (.int word) := by
  have ready := stacked_prepared stacked
  have delivers (rest : List Word) (word : Word) (whole : words = rest ++ [word]) :
      (Engine.step scope).1 = .ok () ∧
        (Engine.step scope).2.get? target = some (.int word) := by
    rw [whole] at ready
    obtain ⟨top, popped, _⟩ := ready.outcome_pop
    have other : target ≠ Variable.instructionPointer :=
      Variable.ne_of_not_mem_own (target_not_mem_own held next rfl) (by decide)
    rw [step_of_popped held next popped]
    refine ⟨rfl, ?_⟩
    rw [FiniteMap.get?_insert_of_ne _ _ other, FiniteMap.get?_insert_self]
  refine ⟨underflows_iff (fun empty => ?_) fun rest word whole => (delivers rest word whole).1,
    delivers⟩
  rw [empty] at ready
  have fails : (perform (.pop target)).outcome (prepared scope) = _ :=
    Exec.outcome_bind_of_error ready.outcome_pop_of_empty
  rw [step_of_failed held next fails]

/-- A return fails for an empty stack and else goes on behind the last word. -/
theorem Stacked.step_ret (next : upcoming? scope = some (pointer, .ret)) :
    ((Engine.step scope).1 = .error .stackUnderflow ↔ words = []) ∧
      ∀ rest word, words = rest ++ [word] → (Engine.step scope).1 = .ok () ∧
        (Engine.step scope).2.get? Variable.instructionPointer = some (.int (word + 1)) := by
  have ready := stacked_prepared stacked
  have returns (rest : List Word) (word : Word) (whole : words = rest ++ [word]) :
      (Engine.step scope).1 = .ok () ∧
        (Engine.step scope).2.get? Variable.instructionPointer = some (.int (word + 1)) := by
    rw [whole] at ready
    obtain ⟨top, popped, _⟩ := ready.outcome_pop
    have performed : (perform .ret).outcome (prepared scope) =
        (.ok (), ((prepared scope).insert Variable.stackPointer (.int top)).insert
          Variable.instructionPointer (.int word)) := Exec.outcome_bind_of_ok popped
    rw [step_of_performed held next performed (FiniteMap.get?_insert_self _ _ _)]
    exact ⟨rfl, FiniteMap.get?_insert_self _ _ _⟩
  refine ⟨underflows_iff (fun empty => ?_) fun rest word whole => (returns rest word whole).1,
    returns⟩
  rw [empty] at ready
  have fails : (perform .ret).outcome (prepared scope) = _ :=
    Exec.outcome_bind_of_error ready.outcome_pop_of_empty
  rw [step_of_failed held next fails]

end Step

end UrclDebugger.Machine
