import UrclDebugger.Proofs.Machine.Refinement
import UrclDebugger.Proofs.Provenance.Machine
import UrclDebugger.Proofs.Provenance.Script

/-!
# A step takes at most one turn

Scripts can bind every variable to what they like, the program and the entry routine included, and
programs move values between variables. Neither makes an object, so every scope of a session is
genuine, and what a step fetches is an admissible action, which can not reach the step flag. The
loop therefore finds the flag set after its first turn.
-/

namespace UrclDebugger

namespace Machine

section Step

variable {scope : Scope}

theorem genuine_prepared (held : scope.Genuine) : (prepared scope).Genuine :=
  (held.insert Variable.stepFlag (.bool true)).insert Variable.breakFlag (.bool false)

theorem genuine_singleTurn (held : scope.Genuine) : (singleTurn scope).2.Genuine := by
  unfold singleTurn
  split
  · exact genuine_prepared held
  · exact genuine_prepared held
  · exact (keepsGenuine_turn _ (genuine_prepared held)).1

/-- In a genuine scope no instruction can reach the step flag. -/
theorem stepFlag_of_turn (held : scope.Genuine) {left : Scope}
    (turned : turn.outcome (prepared scope) = (.ok (), left)) :
    left.get? Variable.stepFlag = some (.bool true) := by
  have raised : (prepared scope).get? Variable.stepFlag = some (.bool true) := by
    rw [prepared, FiniteMap.get?_insert_of_ne _ _ (by decide), FiniteMap.get?_insert_self]
  have ignored := outcome_turn_insert foreign_stepFlag (by decide)
    (fun _ _ fetched => Fetch.admissible_of_genuine (genuine_prepared held) fetched) (.bool true)
  rw [FiniteMap.insert_of_get? raised, turned] at ignored
  have same : left = FiniteMap.insert left Variable.stepFlag (.bool true) :=
    congrArg Prod.snd ignored
  rw [same, FiniteMap.get?_insert_self]

/-- From a genuine scope a step takes at most one turn, whatever the entry routine is bound to, and
leaves a genuine scope. -/
theorem steps_of_genuine (held : scope.Genuine) :
    ∃ count ending, count ≤ 1 ∧ Steps count scope ending ∧ ending.2.Genuine := by
  have flagged : Scope.Genuine (scope.insert Variable.stepFlag (.bool true)) :=
    held.insert Variable.stepFlag (.bool true)
  have entered : (scope.insert Variable.stepFlag (.bool true)).get? Variable.entry =
      scope.get? Variable.entry := FiniteMap.get?_insert_of_ne _ _ (by decide)
  cases bound : scope.get? Variable.entry with
  | none => exact ⟨0, _, Nat.zero_le 1, .undefined (entered.trans bound), flagged⟩
  | some value =>
    by_cases callable : value.kind = .routine
    · cases value with
      | routine routine =>
        by_cases isEntry : routine = Variable.entry
        · subst isEntry
          obtain ⟨count, single, steps⟩ :=
            steps_singleTurn bound fun _ turned => stepFlag_of_turn held turned
          exact ⟨count, _, single, steps, genuine_singleTurn held⟩
        · exact ⟨0, _, Nat.zero_le 1, .noBody (entered.trans bound) isEntry, flagged⟩
      | _ => contradiction
    · exact ⟨0, _, Nat.zero_le 1, .notCallable (entered.trans bound) callable, flagged⟩

end Step

end Machine

/-- The scopes of a session: sources of any kind are loaded in any order, each of which may fail and
keep what it has bound, and steps are taken in between, whether they fail or not. -/
inductive Visited : Scope → Prop where
  | fresh : Visited Engine.fresh
  | loaded {scope : Scope} (visited : Visited scope) (source : Source) :
      Visited (Engine.load scope source).scope
  | stepped {scope : Scope} (visited : Visited scope) : Visited (Engine.step scope).2

/-- Loading keeps a scope genuine, whether it succeeds or not. -/
theorem Urcl.genuine_load {scope : Scope} (held : scope.Genuine) (source : Source) :
    (Urcl.load scope source).scope.Genuine := by
  unfold Urcl.load
  split
  · split
    · exact held
    · rename_i program assembled
      exact Program.genuine_bind (Program.accepted_of_assemble assembled) held
  · exact Script.genuine_run held source.text
  · exact held

/-- Every object in a scope of a session is an instruction that the assembler has accepted. -/
theorem genuine_of_visited {scope : Scope} (visited : Visited scope) : scope.Genuine := by
  induction visited with
  | fresh => exact Scope.genuine_empty
  | loaded _ source held => exact Urcl.genuine_load held source
  | stepped _ held =>
    obtain ⟨count, ending, single, steps, genuine⟩ := Machine.steps_of_genuine held
    rw [Machine.step_of_steps steps (Nat.lt_of_le_of_lt single (by decide))]
    exact genuine

/-- A step of the debugger is at most one turn and always ends. In every scope of a session the loop
that it enters, if it enters it, takes some number of turns and ends as the step does; this number
is at most one. -/
theorem step_takes_one_turn {scope : Scope} (visited : Visited scope) :
    (∃ count, count ≤ 1 ∧ Machine.Steps count scope (Engine.step scope)) ∧
      ∀ count ending, Machine.Steps count scope ending →
        count ≤ 1 ∧ ending = Engine.step scope := by
  obtain ⟨count, ending, single, steps, _⟩ := Machine.steps_of_genuine (genuine_of_visited visited)
  have stepped : Engine.step scope = ending :=
    Machine.step_of_steps steps (Nat.lt_of_le_of_lt single (by decide))
  refine ⟨⟨count, single, stepped ▸ steps⟩, fun other ended again => ?_⟩
  obtain ⟨rfl, rfl⟩ := steps.unique again
  exact ⟨single, stepped.symm⟩

/-- A script that lowers the step flag, raises the break flag and puts the last instruction of the
program at every position of it. -/
def meddlingSource : Source :=
  .inline "meddle.urs" "STEP = false\nROM = [ROM[3], ROM[3], ROM[3], ROM[3]]\nBREAK = true"

/-- What the meddling script leaves of the loaded counting program. -/
def meddled : Scope :=
  (Engine.load (Engine.load (Engine.fresh : Scope) counterSource).scope meddlingSource).scope

/-- A session in which a script meddles with a loaded program. -/
theorem step_takes_one_turn_meddled :
    Visited meddled ∧ ∃ count, count ≤ 1 ∧ Machine.Steps count meddled (Engine.step meddled) := by
  have visited : Visited meddled := .loaded (.loaded .fresh counterSource) meddlingSource
  exact ⟨visited, (step_takes_one_turn visited).1⟩

end UrclDebugger
