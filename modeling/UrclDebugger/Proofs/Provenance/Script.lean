import UrclDebugger.Proofs.Provenance.Parser
import UrclDebugger.Proofs.Script.Descent
import UrclDebugger.Script.Run

/-!
# Values that scripts make

A script reads values out of the scope, takes them apart, and builds words, texts, lists and maps.
None of this makes an object, so in a genuine scope a genuine expression has a genuine value, and a
script leaves a genuine scope, also one that fails on its way.
-/

namespace UrclDebugger

namespace Value

variable {base value : Value}

theorem Genuine.item (genuine : base.Genuine) {position : Word}
    (found : base.item position = .ok value) : value.Genuine := by
  cases base with
  | list items =>
    simp only [Value.item] at found
    split at found
    · rename_i here
      obtain rfl := Except.ok.inj found
      obtain ⟨index, _, listed⟩ := Option.bind_eq_some_iff.mp here
      exact genuine_list_iff.mp genuine index _ listed
    · contradiction
  | map cells =>
    simp only [Value.item] at found
    split at found
    · rename_i here
      obtain rfl := Except.ok.inj found
      exact genuine.get? here
    · contradiction
  | _ => contradiction

theorem Genuine.field (genuine : base.Genuine) {name : String}
    (found : base.field name = .ok value) : value.Genuine := by
  unfold Value.field at found
  split at found
  · rename_i here
    obtain rfl := Except.ok.inj found
    exact genuine.field? here
  · contradiction

theorem genuine_negate {operand : Value} (negated : operand.negate = .ok value) :
    value.Genuine := by
  unfold negate at negated
  split at negated
  · split at negated
    · obtain rfl := Except.ok.inj negated
      exact .int _
    · contradiction
  · contradiction

/-- What an assignment to an item leaves of a list or map. -/
theorem Genuine.setItem (genuine : base.Genuine) (new : value.Genuine) {position : Word}
    {changed : Value} (set : base.setItem position value = .ok changed) : changed.Genuine := by
  cases base with
  | list items =>
    simp only [Value.setItem] at set
    split at set
    · obtain rfl := Except.ok.inj set
      exact genuine.setIfInBounds _ new
    · contradiction
  | map cells =>
    obtain rfl := Except.ok.inj set
    exact genuine.insert position new
  | _ => contradiction

end Value

namespace Expr

/-- The built-in functions give words and texts. -/
theorem genuine_callBuiltin {function : String} {arguments : List Value} {value : Value}
    (called : callBuiltin function arguments = .ok value) : value.Genuine := by
  unfold callBuiltin at called
  split at called
  · split at called
    · obtain ⟨count, _, rfl⟩ := exists_of_map_eq_ok called
      exact .int _
    · contradiction
  · split at called
    · split at called
      · obtain rfl := Except.ok.inj called
        exact .text _
      · contradiction
    · contradiction

variable {scope : Scope}

mutual

/-- In a genuine scope a genuine expression has a genuine value. -/
theorem genuine_evaluate (held : scope.Genuine) : ∀ (expression : Expr) (value : Value),
    expression.Genuine → expression.evaluate scope = .ok value → value.Genuine
  | .literal _, value, genuine, evaluated => by
    obtain rfl := Except.ok.inj evaluated
    cases genuine with
    | literal genuine => exact genuine
  | .name wanted, value, _, evaluated => by
    simp only [evaluate] at evaluated
    split at evaluated
    · rename_i bound
      obtain rfl := Except.ok.inj evaluated
      exact held wanted _ bound
    · contradiction
  | .list items, value, genuine, evaluated => by
    obtain ⟨values, all, rfl⟩ := exists_of_map_eq_ok evaluated
    cases genuine with
    | list each =>
      have every := genuine_evaluateAll held items values each all
      exact .list fun item member => every item (List.mem_toArray.mp member)
  | .map entries, value, genuine, evaluated => by
    obtain ⟨cells, all, rfl⟩ := exists_of_map_eq_ok evaluated
    cases genuine with
    | map _ values =>
      exact genuine_evaluateEntries held entries ∅ cells Value.genuine_emptyMap values all
  | .index base place, value, genuine, evaluated => by
    obtain ⟨position, _, rest⟩ := exists_of_bind_eq_ok evaluated
    obtain ⟨position, _, rest⟩ := exists_of_bind_eq_ok rest
    obtain ⟨whole, found, rest⟩ := exists_of_bind_eq_ok rest
    cases genuine with
    | index genuineBase _ => exact (genuine_evaluate held base whole genuineBase found).item rest
  | .field base wanted, value, genuine, evaluated => by
    obtain ⟨whole, found, rest⟩ := exists_of_bind_eq_ok evaluated
    cases genuine with
    | field genuineBase _ => exact (genuine_evaluate held base whole genuineBase found).field rest
  | .call function arguments, value, _, evaluated => by
    obtain ⟨values, _, rest⟩ := exists_of_bind_eq_ok evaluated
    exact genuine_callBuiltin rest
  | .negate operand, value, _, evaluated => by
    obtain ⟨positive, _, rest⟩ := exists_of_bind_eq_ok evaluated
    exact Value.genuine_negate rest
termination_by structural expression => expression

theorem genuine_evaluateAll (held : scope.Genuine) : ∀ (items : List Expr) (values : List Value),
    (∀ item ∈ items, item.Genuine) → evaluateAll scope items = .ok values →
      ∀ value ∈ values, value.Genuine
  | [], values, _, evaluated => by
    obtain rfl := Except.ok.inj evaluated
    exact nofun
  | first :: others, values, genuine, evaluated => by
    obtain ⟨genuineFirst, genuineOthers⟩ := List.forall_mem_cons.mp genuine
    obtain ⟨value, found, rest⟩ := exists_of_bind_eq_ok evaluated
    obtain ⟨later, all, rest⟩ := exists_of_bind_eq_ok rest
    obtain rfl := Except.ok.inj rest
    exact List.forall_mem_cons.mpr ⟨genuine_evaluate held first value genuineFirst found,
      genuine_evaluateAll held others later genuineOthers all⟩
termination_by structural items => items

theorem genuine_evaluateEntries (held : scope.Genuine) : ∀ (entries : List (Expr × Expr))
    (built cells : FiniteMap Word Value), (Value.map built).Genuine →
    (∀ entry ∈ entries, entry.2.Genuine) → evaluateEntries scope built entries = .ok cells →
      (Value.map cells).Genuine
  | [], built, cells, start, _, evaluated => by
    obtain rfl := Except.ok.inj evaluated
    exact start
  | (key, value) :: others, built, cells, start, genuine, evaluated => by
    obtain ⟨genuineFirst, genuineOthers⟩ := List.forall_mem_cons.mp genuine
    obtain ⟨address, _, rest⟩ := exists_of_bind_eq_ok evaluated
    obtain ⟨address, _, rest⟩ := exists_of_bind_eq_ok rest
    obtain ⟨cell, found, rest⟩ := exists_of_bind_eq_ok rest
    have genuineCell := genuine_evaluate held value cell genuineFirst found
    exact genuine_evaluateEntries held others _ cells (start.insert address genuineCell)
      genuineOthers rest
termination_by structural entries => entries

end

end Expr

/-- A statement binds genuine values. -/
theorem Statement.genuine_run {scope changed : Scope} (held : scope.Genuine) {statement : Statement}
    (genuine : statement.Genuine) (ran : statement.run scope = .ok changed) : changed.Genuine := by
  cases genuine with
  | expression _ =>
    obtain ⟨_, _, rfl⟩ := exists_of_map_eq_ok ran
    exact held
  | assign name genuinePosition genuineValue =>
    rename_i position expression
    cases position with
    | none =>
      obtain ⟨value, found, rest⟩ := exists_of_bind_eq_ok ran
      obtain rfl := Except.ok.inj rest
      exact held.insert name (Expr.genuine_evaluate held _ value genuineValue found)
    | some place =>
      obtain ⟨address, _, rest⟩ := exists_of_bind_eq_ok ran
      obtain ⟨address, _, rest⟩ := exists_of_bind_eq_ok rest
      obtain ⟨value, found, rest⟩ := exists_of_bind_eq_ok rest
      split at rest
      · contradiction
      · rename_i base bound
        obtain ⟨whole, set, rest⟩ := exists_of_bind_eq_ok rest
        obtain rfl := Except.ok.inj rest
        have new := Expr.genuine_evaluate held _ value genuineValue found
        exact held.insert name ((held name base bound).setItem new set)

namespace Script

theorem genuine_runLine {scope changed : Scope} (held : scope.Genuine) {line : List Char}
    (ran : runLine scope line = .ok changed) : changed.Genuine := by
  unfold runLine at ran
  split at ran
  · contradiction
  · obtain rfl := Except.ok.inj ran
    exact held
  · rename_i statement parsed
    split at ran
    · rename_i left done
      obtain rfl := Except.ok.inj ran
      exact Statement.genuine_run held (Statement.genuine_of_parse parsed) done
    · contradiction

/-- The lines before one that fails have bound genuine values. -/
theorem genuine_runLines (number : Nat) {scope : Scope} (held : scope.Genuine)
    (lines : List (List Char)) : (runLines number scope lines).scope.Genuine := by
  induction lines generalizing number scope with
  | nil => exact held
  | cons line rest ih =>
    rw [runLines]
    split
    · rename_i changed ran
      exact ih (number + 1) (genuine_runLine held ran)
    · exact held

/-- A script leaves a genuine scope, whether it fails or not. -/
theorem genuine_run {scope : Scope} (held : scope.Genuine) (text : String) :
    (run scope text).scope.Genuine :=
  genuine_runLines 1 held _

end Script

end UrclDebugger
