import UrclDebugger.Script.Run

/-!
# When statements complete and when they fail

A statement has up to four parts that can fail: the position of an item, the value, the variable and
its item. `Completes` and `Fails` name the cases. Every statement completes or fails
(`completes_or_fails`), and running it tells which (`run_eq_ok_iff`, `run_eq_error_iff`).
-/

namespace UrclDebugger.Statement

/-- The statement has everything that it needs in the scope and leaves another one. -/
inductive Completes (scope : Scope) : Statement → Scope → Prop where
  | expression {dropped : Expr} {value : Value} (found : dropped.evaluate scope = .ok value) :
      Completes scope (.expression dropped) scope
  | whole {name : String} {assigned : Expr} {value : Value}
      (found : assigned.evaluate scope = .ok value) :
      Completes scope (.assign name none assigned) (scope.insert name value)
  | item {name : String} {place assigned : Expr} {position : Word} {value base updated : Value}
      (placed : place.evaluate scope = .ok (.int position))
      (found : assigned.evaluate scope = .ok value) (bound : scope.get? name = some base)
      (set : base.setItem position value = .ok updated) :
      Completes scope (.assign name (some place) assigned) (scope.insert name updated)

/-- A part of the statement fails, and those that are evaluated before it do not. -/
inductive Fails (scope : Scope) : Statement → EvalError → Prop where
  | expression {dropped : Expr} {error : EvalError}
      (failed : dropped.evaluate scope = .error error) : Fails scope (.expression dropped) error
  | whole {name : String} {assigned : Expr} {error : EvalError}
      (failed : assigned.evaluate scope = .error error) :
      Fails scope (.assign name none assigned) error
  | position {name : String} {place assigned : Expr} {error : EvalError}
      (failed : place.evaluate scope = .error error) :
      Fails scope (.assign name (some place) assigned) error
  | positionKind {name : String} {place assigned : Expr} {other : Value}
      (placed : place.evaluate scope = .ok other) (notInt : other.int? = none) :
      Fails scope (.assign name (some place) assigned) (.positionNotInt other.kind)
  | value {name : String} {place assigned : Expr} {position : Word} {error : EvalError}
      (placed : place.evaluate scope = .ok (.int position))
      (failed : assigned.evaluate scope = .error error) :
      Fails scope (.assign name (some place) assigned) error
  | unbound {name : String} {place assigned : Expr} {position : Word} {value : Value}
      (placed : place.evaluate scope = .ok (.int position))
      (found : assigned.evaluate scope = .ok value) (free : scope.get? name = none) :
      Fails scope (.assign name (some place) assigned) (.undefined name)
  | item {name : String} {place assigned : Expr} {position : Word} {value base : Value}
      {error : EvalError} (placed : place.evaluate scope = .ok (.int position))
      (found : assigned.evaluate scope = .ok value) (bound : scope.get? name = some base)
      (refused : base.setItem position value = .error error) :
      Fails scope (.assign name (some place) assigned) error

variable {scope changed : Scope} {statement : Statement} {error : EvalError}

/-- An assignment to an item of a variable, once its position and its value are known. -/
theorem run_assignItem {name : String} {place assigned : Expr} {position : Word} {value : Value}
    (placed : place.evaluate scope = .ok (.int position))
    (found : assigned.evaluate scope = .ok value) :
    run scope (.assign name (some place) assigned) =
      match scope.get? name with
      | none => .error (.undefined name)
      | some base => (base.setItem position value).map (scope.insert name) := by
  rw [run, placed, found]
  change (match scope.get? name with
    | none => Except.error (EvalError.undefined name)
    | some base => (base.setItem position value).bind fun updated =>
      .ok (scope.insert name updated)) = _
  cases scope.get? name with
  | none => rfl
  | some base =>
    dsimp only
    cases base.setItem position value with
    | error error => rfl
    | ok updated => rfl

theorem Completes.run_eq (completes : Completes scope statement changed) :
    statement.run scope = .ok changed := by
  cases completes with
  | expression found =>
    rw [run, found]
    rfl
  | whole found =>
    rw [run, found]
    rfl
  | item placed found bound set =>
    rw [run_assignItem placed found, bound]
    dsimp only
    rw [set, Except.map]

theorem Fails.run_eq (fails : Fails scope statement error) :
    statement.run scope = .error error := by
  cases fails with
  | expression failed =>
    rw [run, failed]
    rfl
  | whole failed =>
    rw [run, failed]
    rfl
  | position failed =>
    rw [run, failed]
    rfl
  | positionKind placed notInt =>
    rename_i other
    rw [run, placed]
    cases other with
    | int => contradiction
    | _ => rfl
  | value placed failed =>
    rw [run, placed, failed]
    rfl
  | unbound placed found free =>
    rw [run_assignItem placed found, free]
  | item placed found bound refused =>
    rw [run_assignItem placed found, bound]
    dsimp only
    rw [refused, Except.map]

/-- Every statement completes or fails. -/
theorem completes_or_fails (scope : Scope) (statement : Statement) :
    (∃ changed, Completes scope statement changed) ∨ ∃ error, Fails scope statement error := by
  cases statement with
  | expression dropped =>
    cases found : dropped.evaluate scope with
    | error error => exact .inr ⟨error, .expression found⟩
    | ok value => exact .inl ⟨scope, .expression found⟩
  | assign name place assigned =>
    cases place with
    | none =>
      cases found : assigned.evaluate scope with
      | error error => exact .inr ⟨error, .whole found⟩
      | ok value => exact .inl ⟨_, .whole found⟩
    | some place =>
      cases placed : place.evaluate scope with
      | error error => exact .inr ⟨error, .position placed⟩
      | ok position =>
        cases isInt : position.int? with
        | none => exact .inr ⟨_, .positionKind placed isInt⟩
        | some word =>
          have same : position = .int word := by
            cases position with
            | int found => rw [Option.some.inj isInt]
            | _ => contradiction
          subst same
          cases found : assigned.evaluate scope with
          | error error => exact .inr ⟨error, .value placed found⟩
          | ok value =>
            cases bound : scope.get? name with
            | none => exact .inr ⟨_, .unbound placed found bound⟩
            | some base =>
              cases set : base.setItem word value with
              | error error => exact .inr ⟨error, .item placed found bound set⟩
              | ok whole => exact .inl ⟨_, .item placed found bound set⟩

theorem run_eq_ok_iff : statement.run scope = .ok changed ↔ Completes scope statement changed := by
  constructor
  · intro ran
    rcases completes_or_fails scope statement with ⟨left, completes⟩ | ⟨error, fails⟩
    · have same := completes.run_eq.symm.trans ran
      exact Except.ok.inj same ▸ completes
    · have same := fails.run_eq.symm.trans ran
      contradiction
  · exact Completes.run_eq

theorem run_eq_error_iff : statement.run scope = .error error ↔ Fails scope statement error := by
  constructor
  · intro ran
    rcases completes_or_fails scope statement with ⟨left, completes⟩ | ⟨found, fails⟩
    · have same := completes.run_eq.symm.trans ran
      contradiction
    · have same := fails.run_eq.symm.trans ran
      exact Except.error.inj same ▸ fails
  · exact Fails.run_eq

end UrclDebugger.Statement
