import Mathlib
import UrclDebugger.Proofs.Script.Statement
import UrclDebugger.Proofs.Text.Lines

/-!
# Where scripts end

A script ends at the first line that can not be read or whose statement fails in the scope that the
lines before it have left, and this line leaves the scope as it is. What stands behind it does not
matter. A script in two parts is therefore the second part run where the first one has ended, if it
has not failed, with the lines of the first part counted (`run_ends_at_first_failure`).
-/

namespace UrclDebugger

namespace Script

open Text

/-- The line has no statement, or one that completes. -/
inductive LineRuns (scope : Scope) (line : List Char) : Scope → Prop where
  | blank (read : Statement.parse (String.ofList line) = .ok none) : LineRuns scope line scope
  | statement {statement : Statement} {changed : Scope}
      (read : Statement.parse (String.ofList line) = .ok (some statement))
      (completes : statement.Completes scope changed) : LineRuns scope line changed

/-- The line can not be read, or its statement fails. -/
inductive LineFails (scope : Scope) (line : List Char) : StatementError → Prop where
  | unreadable {error : ParseError}
      (read : Statement.parse (String.ofList line) = .error error) :
      LineFails scope line (.parse error)
  | statement {statement : Statement} {error : EvalError}
      (read : Statement.parse (String.ofList line) = .ok (some statement))
      (fails : statement.Fails scope error) : LineFails scope line (.eval error)

/-- All the lines run, each in the scope that the one before it leaves. -/
inductive LinesRun : Scope → List (List Char) → Scope → Prop where
  | nil (scope : Scope) : LinesRun scope [] scope
  | cons {scope middle final : Scope} {line : List Char} {rest : List (List Char)}
      (first : LineRuns scope line middle) (others : LinesRun middle rest final) :
      LinesRun scope (line :: rest) final

/-- The line of the given number, counted from one, fails in the scope that the lines before it
leave. -/
def FirstFailure (scope : Scope) (lines : List (List Char)) (number : Nat) (reached : Scope)
    (cause : StatementError) : Prop :=
  ∃ before line after, lines = before ++ line :: after ∧ number = before.length + 1 ∧
    LinesRun scope before reached ∧ LineFails reached line cause

/-- The outcome with the failing line counted from further up. -/
def Outcome.below (outcome : Outcome) (count : Nat) : Outcome :=
  { outcome with failure := outcome.failure.map fun failure =>
      { failure with line := failure.line + count } }

section Lines

variable {scope changed final reached : Scope} {line : List Char} {cause : StatementError}

theorem LineRuns.runLine_eq (runs : LineRuns scope line changed) :
    runLine scope line = .ok changed := by
  cases runs with
  | blank read => rw [runLine, read]
  | statement read completes => simp only [runLine, read, completes.run_eq]

theorem LineFails.runLine_eq (fails : LineFails scope line cause) :
    runLine scope line = .error cause := by
  cases fails with
  | unreadable read => rw [runLine, read]
  | statement read fails => simp only [runLine, read, fails.run_eq]

/-- Every line runs or fails. -/
theorem lineRuns_or_lineFails (scope : Scope) (line : List Char) :
    (∃ changed, LineRuns scope line changed) ∨ ∃ cause, LineFails scope line cause := by
  cases read : Statement.parse (String.ofList line) with
  | error error => exact .inr ⟨_, .unreadable read⟩
  | ok found =>
    cases found with
    | none => exact .inl ⟨_, .blank read⟩
    | some statement =>
      rcases statement.completes_or_fails scope with ⟨changed, completes⟩ | ⟨error, fails⟩
      · exact .inl ⟨_, .statement read completes⟩
      · exact .inr ⟨_, .statement read fails⟩

/-- Lines that run hand their scope on to the lines behind them. -/
theorem runLines_append {before : List (List Char)} (run : LinesRun scope before reached)
    (number : Nat) (rest : List (List Char)) :
    runLines number scope (before ++ rest) = runLines (number + before.length) reached rest := by
  induction run generalizing number with
  | nil => rfl
  | cons first _ ih =>
    rename_i others _
    have counted : number + (others.length + 1) = number + 1 + others.length := by omega
    rw [List.cons_append, List.length_cons, runLines, first.runLine_eq, counted]
    exact ih (number + 1)

/-- The number of the first line only counts. -/
theorem runLines_add (lines : List (List Char)) (scope : Scope) (number count : Nat) :
    runLines (number + count) scope lines = (runLines number scope lines).below count := by
  induction lines generalizing scope number with
  | nil => rfl
  | cons line rest ih =>
    rw [runLines, runLines]
    cases runLine scope line with
    | error cause => rfl
    | ok changed =>
      have next : number + count + 1 = number + 1 + count := by omega
      dsimp only
      rw [next]
      exact ih changed (number + 1)

end Lines

section Outcomes

variable {scope final reached : Scope} {lines : List (List Char)} {number : Nat}
  {cause : StatementError}

theorem LinesRun.runLines_eq (run : LinesRun scope lines final) :
    runLines 1 scope lines = ⟨final, none⟩ := by
  have ran := runLines_append run 1 []
  rwa [List.append_nil] at ran

theorem FirstFailure.runLines_eq (failure : FirstFailure scope lines number reached cause) :
    runLines 1 scope lines = ⟨reached, some ⟨number, cause⟩⟩ := by
  obtain ⟨before, line, after, rfl, rfl, run, fails⟩ := failure
  have counted : 1 + before.length = before.length + 1 := Nat.add_comm _ _
  rw [runLines_append run, runLines, fails.runLine_eq, counted]

/-- Lines run, or one of them is the first that fails. -/
theorem run_or_firstFailure (scope : Scope) (lines : List (List Char)) :
    (∃ final, LinesRun scope lines final) ∨
      ∃ number reached cause, FirstFailure scope lines number reached cause := by
  induction lines generalizing scope with
  | nil => exact .inl ⟨scope, .nil scope⟩
  | cons line rest ih =>
    rcases lineRuns_or_lineFails scope line with ⟨changed, first⟩ | ⟨cause, fails⟩
    · rcases ih changed with ⟨final, run⟩ | ⟨_, reached, cause, failure⟩
      · exact .inl ⟨final, .cons first run⟩
      · obtain ⟨before, failing, after, rfl, rfl, run, fails⟩ := failure
        have whole := LinesRun.cons first run
        exact .inr ⟨_, reached, cause, line :: before, failing, after, rfl, rfl, whole, fails⟩
    · exact .inr ⟨1, scope, cause, [], line, rest, rfl, rfl, .nil scope, fails⟩

theorem runLines_eq_ok_iff :
    runLines 1 scope lines = ⟨final, none⟩ ↔ LinesRun scope lines final := by
  constructor
  · intro ran
    rcases run_or_firstFailure scope lines with ⟨left, run⟩ | ⟨number, reached, cause, failure⟩
    · have same := run.runLines_eq.symm.trans ran
      obtain rfl := (Outcome.mk.inj same).1
      exact run
    · have same := failure.runLines_eq.symm.trans ran
      exact nomatch (Outcome.mk.inj same).2
  · exact LinesRun.runLines_eq

theorem runLines_eq_failure_iff :
    runLines 1 scope lines = ⟨reached, some ⟨number, cause⟩⟩ ↔
      FirstFailure scope lines number reached cause := by
  constructor
  · intro ran
    rcases run_or_firstFailure scope lines with ⟨left, run⟩ | ⟨found, left, other, failure⟩
    · have same := run.runLines_eq.symm.trans ran
      exact nomatch (Outcome.mk.inj same).2
    · have same := Outcome.mk.inj (failure.runLines_eq.symm.trans ran)
      obtain ⟨rfl, rfl⟩ := ScriptError.mk.inj (Option.some.inj same.2)
      exact same.1 ▸ failure
  · exact FirstFailure.runLines_eq

/-- What stands behind the first line that fails does not matter. -/
theorem FirstFailure.of_take {others : List (List Char)}
    (failure : FirstFailure scope lines number reached cause)
    (same : others.take number = lines.take number) :
    FirstFailure scope others number reached cause := by
  obtain ⟨before, line, after, rfl, rfl, run, fails⟩ := failure
  have front : others.take (before.length + 1) = before ++ [line] := by
    rw [same, List.append_cons]
    exact List.take_left' (by simp)
  refine ⟨before, line, others.drop (before.length + 1), ?_, rfl, run, fails⟩
  calc
    others = others.take (before.length + 1) ++ others.drop (before.length + 1) :=
      (List.take_append_drop _ _).symm
    _ = before ++ line :: others.drop (before.length + 1) := by
      rw [front, List.append_assoc, List.singleton_append]

/-- The lines before the first that fails run by themselves. -/
theorem FirstFailure.linesRun_take (failure : FirstFailure scope lines number reached cause) :
    LinesRun scope (lines.take (number - 1)) reached := by
  obtain ⟨before, line, after, rfl, rfl, run, fails⟩ := failure
  rw [Nat.add_sub_cancel, List.take_left]
  exact run

theorem FirstFailure.number_sub_one_lt (failure : FirstFailure scope lines number reached cause) :
    number - 1 < lines.length := by
  obtain ⟨before, line, after, rfl, rfl, run, fails⟩ := failure
  rw [Nat.add_sub_cancel, List.length_append, List.length_cons]
  omega

end Outcomes

section Texts

variable {scope final reached : Scope} {text : String} {number : Nat} {cause : StatementError}

theorem run_eq_ok_iff : run scope text = ⟨final, none⟩ ↔ LinesRun scope (lines text.toList) final :=
  runLines_eq_ok_iff

theorem run_eq_failure_iff :
    run scope text = ⟨reached, some ⟨number, cause⟩⟩ ↔
      FirstFailure scope (lines text.toList) number reached cause :=
  runLines_eq_failure_iff

/-- A text that fails has a front with the lines before the failing one. -/
theorem FirstFailure.exists_front
    (failure : FirstFailure scope (lines text.toList) number reached cause) :
    ∃ front rest : String, text = front ++ rest ∧ EndsLine front.toList ∧
      lines front.toList = (lines text.toList).take (number - 1) := by
  obtain ⟨front, rest, parts, ends, split⟩ := exists_front_of_lines failure.number_sub_one_lt
  refine ⟨String.ofList front, String.ofList rest, ?_, ?_, ?_⟩
  · rw [← String.ofList_append, ← parts, String.ofList_toList]
  · rwa [String.toList_ofList]
  · rwa [String.toList_ofList]

/-- A script in two parts is its second part run where the first has ended. -/
theorem run_append (ends : EndsLine text.toList) (rest : String) :
    run scope (text ++ rest) =
      match (run scope text).failure with
      | some _ => run scope text
      | none => (run (run scope text).scope rest).below (lines text.toList).length := by
  have parts : lines (text ++ rest).toList = lines text.toList ++ lines rest.toList := by
    rw [String.toList_append, lines_append ends]
  rcases run_or_firstFailure scope (lines text.toList) with
    ⟨final, completed⟩ | ⟨number, reached, cause, failure⟩
  · rw [run_eq_ok_iff.mpr completed]
    change runLines 1 scope (lines (text ++ rest).toList) = _
    rw [parts, runLines_append completed, runLines_add]
    rfl
  · -- The failing line stands in the first part, so both texts agree up to it.
    have stopped := run_eq_failure_iff.mpr failure
    rw [stopped]
    apply run_eq_failure_iff.mpr
    apply failure.of_take
    have inside := failure.number_sub_one_lt
    rw [parts, List.take_append_of_le_length (by omega)]

end Texts

/-- A script completes when all its lines run, each in the scope that the one before leaves, and
otherwise ends at the first line that fails, with the scope that the lines before it leave when they
are run alone, whatever stands behind it. A script in two parts, of which the first ends a line, is
the second part run where the first has ended, unless that has failed, with its lines counted on. -/
theorem run_ends_at_first_failure (scope : Scope) (text : String) :
    (∀ final, run scope text = ⟨final, none⟩ ↔ LinesRun scope (lines text.toList) final) ∧
    (∀ reached number cause, run scope text = ⟨reached, some ⟨number, cause⟩⟩ ↔
      FirstFailure scope (lines text.toList) number reached cause) ∧
    (∀ reached number cause, run scope text = ⟨reached, some ⟨number, cause⟩⟩ →
      (∃ front rest : String, text = front ++ rest ∧ EndsLine front.toList ∧
        lines front.toList = (lines text.toList).take (number - 1)) ∧
      (∀ front : String, lines front.toList = (lines text.toList).take (number - 1) →
        run scope front = ⟨reached, none⟩) ∧
      ∀ other : String, (lines other.toList).take number = (lines text.toList).take number →
        run scope other = run scope text) ∧
    (EndsLine text.toList → ∀ rest : String, run scope (text ++ rest) =
      match (run scope text).failure with
      | some _ => run scope text
      | none => (run (run scope text).scope rest).below (lines text.toList).length) := by
  refine ⟨fun final => run_eq_ok_iff, fun reached number cause => run_eq_failure_iff,
    fun reached number cause ended => ?_, run_append⟩
  have failure := run_eq_failure_iff.mp ended
  refine ⟨failure.exists_front, fun front before => ?_, fun other same => ?_⟩
  · rw [run_eq_ok_iff, before]
    exact failure.linesRun_take
  · rw [ended]
    exact run_eq_failure_iff.mpr (failure.of_take same)

/-- A comment counts as a line, and an item of an integer can not be assigned. -/
theorem run_ends_at_item :
    run ∅ "A = 1\n# one\nA[0] = 2\n" =
      ⟨FiniteMap.insert ∅ "A" (.int 1), some ⟨3, .eval (.itemsNotAssignable .int)⟩⟩ ∧
    run ∅ "A = 1\n# one\n" = ⟨FiniteMap.insert ∅ "A" (.int 1), none⟩ ∧
    run ∅ ("A = 1\n# one\nA[0] = 2\n" ++ "B = (") = run ∅ "A = 1\n# one\nA[0] = 2\n" := by
  have ended : run ∅ "A = 1\n# one\nA[0] = 2\n" =
      ⟨FiniteMap.insert ∅ "A" (.int 1), some ⟨3, .eval (.itemsNotAssignable .int)⟩⟩ := by cbv
  have stops := run_ends_at_first_failure ∅ "A = 1\n# one\nA[0] = 2\n"
  have alone := (stops.2.2.1 _ _ _ ended).2.1 "A = 1\n# one\n" (by decide)
  have ends : EndsLine "A = 1\n# one\nA[0] = 2\n".toList :=
    .inr ⟨"A = 1\n# one\nA[0] = 2".toList, by decide⟩
  have longer := stops.2.2.2 ends "B = ("
  rw [ended] at longer ⊢
  exact ⟨rfl, alone, longer⟩

end Script

end UrclDebugger
