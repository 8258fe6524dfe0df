import UrclDebugger.Proofs.Machine.Discipline

/-!
# Calls and returns

A run of disciplined steps keeps a list of words on the stack. As long as the list does not become
shorter than it was once, the words that were on it then stay (`StackRun.take_eq`), so a return at
the level of a call takes the position of that call, whatever was pushed and called in between
(`stack_last_in_first_out`).
-/

namespace UrclDebugger

namespace Machine

open Memory (stackLimit)

/-- Disciplined steps that end well, and the words that they leave on the stack. The words are never
fewer than the given number. -/
inductive StackRun (floor : Nat) (start : Scope) (words : List Word) :
    Scope → List Word → Prop where
  | start (deep : floor ≤ words.length) : StackRun floor start words start words
  | step {scope : Scope} {held : List Word} (run : StackRun floor start words scope held)
      (disciplined : ∀ pointer action, upcoming? scope = some (pointer, action) →
        Disciplined scope action)
      (succeeds : (Engine.step scope).1 = .ok ())
      (deep : floor ≤ (wordsAfter scope held).length) :
      StackRun floor start words (Engine.step scope).2 (wordsAfter scope held)

/-- A step appends to the words on the stack or takes the last one. -/
theorem wordsAfter_cases (scope : Scope) (words : List Word) :
    (∃ more, wordsAfter scope words = words ++ more) ∨ wordsAfter scope words = words.dropLast := by
  unfold wordsAfter
  split
  · rename_i pointer action _
    cases action with
    | push source => exact .inl ⟨_, rfl⟩
    | call destination => exact .inl ⟨_, rfl⟩
    | pop target => exact .inr rfl
    | ret => exact .inr rfl
    | _ => exact .inl ⟨[], (List.append_nil words).symm⟩
  · exact .inl ⟨[], (List.append_nil words).symm⟩

/-- A step that leaves a number of words leaves the first of them. -/
theorem take_wordsAfter {scope : Scope} {words : List Word} {floor : Nat}
    (before : floor ≤ words.length) (after : floor ≤ (wordsAfter scope words).length) :
    (wordsAfter scope words).take floor = words.take floor := by
  obtain ⟨more, appended⟩ | dropped := wordsAfter_cases scope words
  · rw [appended, List.take_append_of_le_length before]
  · rw [dropped, List.length_dropLast] at after
    rw [dropped, List.dropLast_eq_take, List.take_take, Nat.min_eq_left after]

section Run

variable {floor : Nat} {start scope : Scope} {words held : List Word}
  (run : StackRun floor start words scope held)

include run

theorem StackRun.deep : floor ≤ held.length := by
  cases run with
  | start deep => exact deep
  | step _ _ _ deep => exact deep

/-- What lies deeper than a run goes stays. -/
theorem StackRun.take_eq : held.take floor = words.take floor := by
  induction run with
  | start => rfl
  | step run _ _ deep ih => rw [take_wordsAfter run.deep deep, ih]

/-- A run goes on with another one that goes no deeper. -/
theorem StackRun.append {deeper : Nat} (above : floor ≤ deeper) {last : Scope} {final : List Word}
    (more : StackRun deeper scope held last final) : StackRun floor start words last final := by
  induction more with
  | start => exact run
  | step _ disciplined succeeds deep ih => exact ih.step disciplined succeeds (by omega)

/-- Runs of a session keep the words on the stack. -/
theorem StackRun.stacked (visited : Visited start) (stacked : Stacked start words) :
    Visited scope ∧ Stacked scope held := by
  induction run with
  | start => exact ⟨visited, stacked⟩
  | step _ disciplined succeeds _ ih =>
    exact ⟨ih.1.stepped, ih.2.step (genuine_of_visited ih.1) disciplined succeeds⟩

end Run

/-- Once a program is loaded its stack is empty. -/
theorem stacked_load {source : Source} {program : Program} (urcl : source.extension? = some "urcl")
    (assembled : Program.assemble source.text = .ok program) (before : Scope) :
    Stacked (Engine.load before source).scope [] := by
  have pointer : (program.bind before).get? Variable.stackPointer = some (.int 0) :=
    Program.get?_bind_of_mem_registers program.stackPointer_mem_registers
  have cells : (program.bind before).get? Variable.stack = some (.list #[]) := by
    rw [Program.get?_bind_of_mem_own (by decide) (by decide) (by decide)]
    simp +decide [Program.bindState]
  rw [Urcl.scope_load urcl assembled]
  exact ⟨Nat.zero_le _, ⟨0, pointer, rfl⟩, #[], cells, fun _ inside => absurd inside (by simp)⟩

/-- What the words on the stack mean for the next step. -/
structure LastInFirstOut (scope : Scope) (words : List Word) : Prop where
  stacked : Stacked scope words
  /-- A push of an operand that has a word fails for lack of room on a full stack only. -/
  push : ∀ pointer source word, upcoming? scope = some (pointer, .push source) →
    Operand.value scope source = .ok word →
    (words.length < stackLimit → (Engine.step scope).1 = .ok ()) ∧
      ((∃ address, (Engine.step scope).1 = .error (.stackAddress address)) ↔
        words.length = stackLimit)
  /-- So does a call, which can also fail because there is no place before its destination. -/
  call : ∀ pointer destination word, upcoming? scope = some (pointer, .call destination) →
    Operand.value scope destination = .ok word →
    (words.length < stackLimit → word ≠ Int64.minValue → (Engine.step scope).1 = .ok ()) ∧
      ((∃ address, (Engine.step scope).1 = .error (.stackAddress address)) ↔
        words.length = stackLimit)
  /-- A pop fails on an empty stack only and delivers the last word. -/
  pop : ∀ pointer target, upcoming? scope = some (pointer, .pop target) →
    ((Engine.step scope).1 = .error .stackUnderflow ↔ words = []) ∧
      ∀ rest word, words = rest ++ [word] → (Engine.step scope).1 = .ok () ∧
        (Engine.step scope).2.get? target = some (.int word)
  /-- A return fails on an empty stack only and goes on behind the last word. -/
  ret : ∀ pointer, upcoming? scope = some (pointer, .ret) →
    ((Engine.step scope).1 = .error .stackUnderflow ↔ words = []) ∧
      ∀ rest word, words = rest ++ [word] → (Engine.step scope).1 = .ok () ∧
        (Engine.step scope).2.get? Variable.instructionPointer = some (.int (word + 1))

theorem Stacked.lastInFirstOut {scope : Scope} {words : List Word} (held : scope.Genuine)
    (stacked : Stacked scope words) : LastInFirstOut scope words where
  stacked := stacked
  push _ _ _ next stands := stacked.step_push held next stands
  call _ _ _ next stands := stacked.step_call held next stands
  pop _ _ next := stacked.step_pop held next
  ret _ next := stacked.step_ret held next

section Next

variable {floor : Nat} {start scope : Scope} {words held : List Word} {pointer : Word}
  (run : StackRun floor start words scope held)

include run

/-- A run goes on with an instruction that is disciplined. -/
theorem StackRun.next {action : Action} (next : upcoming? scope = some (pointer, action))
    (disciplined : Disciplined scope action) (succeeds : (Engine.step scope).1 = .ok ())
    {after : List Word} (made : wordsAfter scope held = after) (deep : floor ≤ after.length) :
    StackRun floor start words (Engine.step scope).2 after := by
  subst made
  refine run.step (fun place other upcoming => ?_) succeeds deep
  obtain ⟨rfl, rfl⟩ : pointer = place ∧ action = other := by simpa using next.symm.trans upcoming
  exact disciplined

/-- A call leaves its own position on the stack, and the discipline does not concern it. -/
theorem StackRun.call {destination : String}
    (next : upcoming? scope = some (pointer, .call destination))
    (succeeds : (Engine.step scope).1 = .ok ()) :
    StackRun floor start words (Engine.step scope).2 (held ++ [pointer]) := by
  have made : wordsAfter scope held = held ++ [pointer] := by
    rw [wordsAfter, next]
    rfl
  have deep : floor ≤ (held ++ [pointer]).length := by
    rw [List.length_append]
    exact Nat.le_add_right_of_le run.deep
  have disciplined : Disciplined scope (.call destination) :=
    disciplined_of_storedAt?_eq_none (Option.not_mem_none _) rfl
  exact run.next next disciplined succeeds made deep

end Next

end Machine

open Machine in
/-- The stack is last-in first-out. From a scope of a session into which a program has just been
loaded, take any steps that end well and whose instructions neither assign the stack pointer nor
store to a negative address; what a pop assigns counts as well. Then the stack is the list that
pushes and calls append to and pops and returns take from: the stack pointer is minus its length,
the stack cells begin with it, a pop or a return delivers its last word and fails exactly if it is
empty, and a push or a call fails for lack of room exactly if it has as many words as the stack
may have cells. So a return goes on behind its call: after any such steps that keep what the call
has put on the stack, a return at the level of the call goes to the position after it. -/
theorem stack_last_in_first_out {before : Scope} (visited : Visited before) {source : Source}
    {program : Program} (urcl : source.extension? = some "urcl")
    (assembled : Program.assemble source.text = .ok program) {scope : Scope} {words : List Word}
    (run : StackRun 0 (Engine.load before source).scope [] scope words) :
    LastInFirstOut scope words ∧
      ∀ pointer destination, upcoming? scope = some (pointer, .call destination) →
        (Engine.step scope).1 = .ok () →
        ∀ last final, StackRun (words.length + 1) (Engine.step scope).2 (words ++ [pointer]) last
          final → final.length = words.length + 1 →
        ∀ place, upcoming? last = some (place, .ret) →
          (Engine.step last).1 = .ok () ∧
            (Engine.step last).2.get? Variable.instructionPointer = some (.int (pointer + 1)) := by
  have loaded := stacked_load urcl assembled before
  obtain ⟨reached, stacked⟩ := run.stacked (visited.loaded source) loaded
  refine ⟨stacked.lastInFirstOut (genuine_of_visited reached), ?_⟩
  intro pointer destination next succeeds last final inner level place returns
  obtain ⟨there, after⟩ :=
    ((run.call next succeeds).append (Nat.zero_le _) inner).stacked (visited.loaded source) loaded
  have kept : final = words ++ [pointer] := by
    have same := inner.take_eq
    rwa [List.take_of_length_le (Nat.le_of_eq level), List.take_of_length_le (by simp)] at same
  exact (after.step_ret (genuine_of_visited there) returns).2 words pointer kept

section Runs

open Machine

/-- A program that pops into the stack pointer. -/
def overwriting : Scope :=
  (Engine.load (Engine.fresh : Scope) (.inline "overwriting.urcl" "PSH 5\nPOP SP")).scope

/-- The program above after its push. -/
def overwritten : Scope := (Engine.step overwriting).2

/-- After a pop into the stack pointer no list of words is on the stack. -/
theorem stack_lost_by_pop :
    upcoming? overwriting = some (0, .push "5") ∧ (Engine.step overwriting).1 = .ok () ∧
      upcoming? overwritten = some (1, .pop "SP") ∧ (Engine.step overwritten).1 = .ok () ∧
      (Engine.step overwritten).2.get? Variable.stackPointer = some (.int 5) ∧
      ∀ words, ¬ Stacked (Engine.step overwritten).2 words := by
  have pointer : (Engine.step overwritten).2.get? Variable.stackPointer = some (.int 5) := by cbv
  refine ⟨by cbv, by cbv, by cbv, by cbv, pointer, fun words stacked => ?_⟩
  obtain ⟨top, bound, counts⟩ := stacked.pointer
  obtain rfl : 5 = top := by simpa using pointer.symm.trans bound
  have five : (5 : Word).toInt = 5 := rfl
  omega

/-- A program that calls a part of itself, which pushes and pops before it returns. -/
def nestedSource : Source := .inline "nested.urcl" "CAL .f\nHLT\n.f\nPSH 9\nPOP R1\nRET"

/-- The program above as it is loaded, with the call next. -/
def calling : Scope := (Engine.load (Engine.fresh : Scope) nestedSource).scope

/-- The program above with the push next. -/
def called : Scope := (Engine.step calling).2

/-- The program above with the pop next. -/
def filled : Scope := (Engine.step called).2

/-- The program above with the return next. -/
def returning : Scope := (Engine.step filled).2

theorem calling_calls :
    upcoming? calling = some (0, .call ".f") ∧ (Engine.step calling).1 = .ok () :=
  ⟨by cbv, by cbv⟩

theorem called_pushes :
    upcoming? called = some (2, .push "9") ∧ (Engine.step called).1 = .ok () :=
  ⟨by cbv, by cbv⟩

theorem filled_pops :
    upcoming? filled = some (3, .pop "R1") ∧ (Engine.step filled).1 = .ok () :=
  ⟨by cbv, by cbv⟩

theorem returning_returns : upcoming? returning = some (4, .ret) := by cbv

/-- The return goes to the position after the call. -/
theorem stack_last_in_first_out_nested :
    (Engine.step returning).1 = .ok () ∧
      (Engine.step returning).2.get? Variable.instructionPointer = some (.int 1) := by
  have urcl : nestedSource.extension? = some "urcl" := by decide
  obtain ⟨program, assembled⟩ : ∃ program, Program.assemble nestedSource.text = .ok program :=
    ⟨_, rfl⟩
  obtain ⟨call, calls⟩ := calling_calls
  obtain ⟨push, pushes⟩ := called_pushes
  obtain ⟨pop, pops⟩ := filled_pops
  have nine : Operand.value called "9" = .ok 9 := rfl
  have pushed : wordsAfter called [0] = [0, 9] := by
    rw [wordsAfter, push]
    show [0] ++ (Operand.value called "9").toOption.toList = [0, 9]
    rw [nine]
    rfl
  have popped : wordsAfter filled [0, 9] = [0] := by
    rw [wordsAfter, pop]
    rfl
  have pushing : Disciplined called (.push "9") :=
    disciplined_of_storedAt?_eq_none (by decide) rfl
  have popping : Disciplined filled (.pop "R1") :=
    disciplined_of_storedAt?_eq_none (by decide) rfl
  have first : StackRun 1 called [0] filled [0, 9] :=
    (StackRun.start (Nat.le_refl 1)).next push pushing pushes pushed (by decide)
  have inner : StackRun 1 called [0] returning [0] :=
    first.next pop popping pops popped (by decide)
  have laws := stack_last_in_first_out .fresh urcl assembled (.start (Nat.zero_le _))
  exact laws.2 0 ".f" call calls returning [0] inner rfl 4 returning_returns

end Runs

end UrclDebugger
