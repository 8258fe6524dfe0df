import UrclDebugger.Proofs.Provenance.Session
import UrclDebugger.Proofs.Script.Acceptance
import UrclDebugger.Proofs.Script.Reading
import UrclDebugger.Session.Basic

/-!
# Two readings of the halt flag

A session calls a program halted when the halt flag is anything but `false`, the loop of the machine
stops when it is true in a condition. For flags the two readings are one. A script can bind the
variable to something else that is false in a condition, zero or what is empty or absent, and there
they part: the session shows the program as halted and a step goes on with it. For all other values
a program that is shown as halted does not advance (`halted_iff_idles`).
-/

namespace UrclDebugger

/-- What is false in a condition but is not the flag `false`. -/
def Value.isLooselyFalse (value : Value) : Bool := !value.isTruthy && value != .bool false

/-- The values that are false in a condition without being a flag. -/
theorem Value.isLooselyFalse_iff {value : Value} :
    value.isLooselyFalse = true ↔
      value = .int 0 ∨ value = .text "" ∨ value = .list #[] ∨ value = .map ∅ ∨ value = .absent := by
  cases value with
  | int word => simp [isLooselyFalse, isTruthy]
  | bool flag => cases flag <;> simp [isLooselyFalse, isTruthy]
  | text content => simp [isLooselyFalse, isTruthy]
  | list items => simp [isLooselyFalse, isTruthy]
  | map cells => simp [isLooselyFalse, isTruthy, Entries.isEmpty_iff]
  | object fields => simp [isLooselyFalse, isTruthy]
  | routine name => simp [isLooselyFalse, isTruthy]
  | absent => simp [isLooselyFalse, isTruthy]

/-- A source that holds a script runs the script. -/
theorem Urcl.scope_load_script {source : Source} (urs : source.extension? = some "urs")
    (scope : Scope) : (Engine.load scope source).scope = (Script.run scope source.text).scope := by
  show (Urcl.load scope source).scope = _
  simp only [Urcl.load, urs]

/-- The session reads the variable as halted unless it holds the flag `false`. -/
theorem Signals.halted_read {scope : Scope} {flag : Value}
    (bound : scope.get? Variable.haltFlag = some flag) :
    (Signals.read scope).halted = true ↔ flag ≠ .bool false := by
  have read : Engine.read scope Variable.haltFlag = some flag := bound
  unfold Signals.read
  rw [read]
  dsimp only
  split <;> simp_all

namespace Machine

/-- A step idles when it ends well without a turn of the loop. -/
def Idles (scope : Scope) : Prop :=
  Steps 0 scope (Engine.step scope) ∧ (Engine.step scope).1 = .ok ()

/-- A call of the entry routine is a run of its loop. -/
theorem Calls.loop {name : String} {count : Nat} {scope : Scope} {ending : Ending}
    (calls : Calls name count scope ending)
    (bound : scope.get? name = some (.routine Variable.entry)) :
    Loop count (scope.insert Variable.breakFlag (.bool false)) ending := by
  cases calls with
  | entry _ loop => exact loop
  | noBody other different =>
    obtain rfl := Value.routine.inj (Option.some.inj (other.symm.trans bound))
    contradiction
  | notCallable other different =>
    obtain rfl := Option.some.inj (other.symm.trans bound)
    contradiction
  | undefined unbound => exact nomatch unbound.symm.trans bound

/-- A loop that is not stopped at once takes a turn. -/
theorem Loop.ne_zero_of_running {count : Nat} {scope : Scope} {ending : Ending}
    (loop : Loop count scope ending) (running : halted scope = .ok false) : count ≠ 0 := by
  rintro rfl
  cases loop with
  | unreadable unread => exact nomatch unread.symm.trans running
  | stopped halt => exact nomatch halt.symm.trans running

section

variable {scope : Scope} {flag : Value}

/-- The loop reads the variable as a condition. -/
theorem halted_prepared (bound : scope.get? Variable.haltFlag = some flag) :
    halted (prepared scope) = .ok flag.isTruthy := by
  rw [halted, Scope.require, get?_prepared (by decide) (by decide), bound]
  rfl

variable (entry : scope.get? Variable.entry = some (.routine Variable.entry))

include entry

/-- Where the variable is true a step writes its two flags and is done. -/
theorem step_of_stopped (stopped : halted (prepared scope) = .ok true) :
    Steps 0 scope (Engine.step scope) ∧ Engine.step scope = (.ok (), prepared scope) := by
  have steps : Steps 0 scope (.ok (), prepared scope) :=
    .entry (entry_of_stepping entry) (.stopped stopped)
  have stepped : Engine.step scope = (.ok (), prepared scope) := step_of_steps steps (by decide)
  exact ⟨stepped ▸ steps, stepped⟩

/-- Where the variable is false a step takes its turn. -/
theorem steps_one_of_running (held : scope.Genuine)
    (running : halted (prepared scope) = .ok false) : Steps 1 scope (Engine.step scope) := by
  obtain ⟨count, ending, single, steps, _⟩ := steps_of_genuine held
  have stepped : Engine.step scope = ending :=
    step_of_steps steps (Nat.lt_of_le_of_lt single (by decide))
  have loop : Loop count (prepared scope) ending := steps.loop (entry_of_stepping entry)
  have taken := loop.ne_zero_of_running running
  obtain rfl : count = 1 := by omega
  exact stepped ▸ steps

/-- A step idles exactly where the variable is true in a condition. -/
theorem idles_iff (held : scope.Genuine) (bound : scope.get? Variable.haltFlag = some flag) :
    Idles scope ↔ flag.isTruthy = true := by
  have read := halted_prepared bound
  cases truth : flag.isTruthy with
  | true =>
    rw [truth] at read
    obtain ⟨steps, stepped⟩ := step_of_stopped entry read
    exact iff_of_true ⟨steps, by rw [stepped]⟩ rfl
  | false =>
    rw [truth] at read
    refine iff_of_false (fun idles => ?_) Bool.false_ne_true
    exact absurd (idles.1.unique (steps_one_of_running entry held read)).1 (by decide)

/-- A step takes its turn exactly where it does not idle. -/
theorem steps_one_iff (held : scope.Genuine) (bound : scope.get? Variable.haltFlag = some flag) :
    Steps 1 scope (Engine.step scope) ↔ ¬ Idles scope := by
  refine ⟨fun steps idles => absurd (steps.unique idles.1).1 (by decide), fun busy => ?_⟩
  have read := halted_prepared bound
  rw [Bool.eq_false_iff.mpr (mt (idles_iff entry held bound).mpr busy)] at read
  exact steps_one_of_running entry held read

end

end Machine

/-- Only a halted program is shown as one. -/
theorem Session.halted_of_runState {session : Session Scope} (shown : session.runState = .halted) :
    (Signals.read session.scope).halted = true := by
  unfold Session.runState Pacer.state at shown
  split at shown
  · contradiction
  split at shown
  · contradiction
  split at shown
  · assumption
  · contradiction

section Preset

/-- A script of one line that binds the halt flag to a number. -/
def presetText (number : Nat) : String := "HALT=" ++ toString number

/-- What the script leaves of the counting program that was loaded before it. -/
def preset (number : Nat) : Scope :=
  (Engine.load (Engine.load (Engine.fresh : Scope) counterSource).scope
    (.inline "preset.urs" (presetText number))).scope

theorem visited_preset (number : Nat) : Visited (preset number) :=
  .loaded (.loaded .fresh counterSource) (.inline "preset.urs" (presetText number))

variable {number : Nat} (fits : number < Word.positions)

include fits

theorem scan_presetText : Token.scan (presetText number).toList =
    .ok [.name Variable.haltFlag, .equals, .int (Int64.ofNat number)] := by
  have pieces : (presetText number).toList =
      ['H', 'A', 'L', 'T'] ++ '=' :: (Nat.toDigits 10 number ++ []) := by
    simp [presetText]
  rw [pieces, Token.scan_name (by decide) (ends_of_cons rfl), Token.scan_punctuation rfl,
    Token.scan_decimal fits (by simp), Token.scan]
  rfl

theorem parse_presetText : Statement.parse (presetText number) =
    .ok (some (.assign Variable.haltFlag none (.literal (.int (Int64.ofNat number))))) := by
  have cut : Token.ofText (presetText number) =
      .ok [.name Variable.haltFlag, .equals, .int (Int64.ofNat number)] := by
    rw [Token.ofText, scan_presetText fits]
    rfl
  have name : Grammar.Primary [.name Variable.haltFlag] (.name Variable.haltFlag) 0 :=
    .name (by simp +decide [Grammar.reserved])
  have target : Grammar.Denotes [.name Variable.haltFlag] (.name Variable.haltFlag) :=
    ⟨1, .chain name (.none _), by decide⟩
  have assigned : Grammar.Denotes [.int (Int64.ofNat number)]
      (.literal (.int (Int64.ofNat number))) := ⟨1, .chain (.int _) (.none _), by decide⟩
  exact Statement.parse_eq_ok_iff.mpr ⟨_, cut, .assign target assigned⟩

/-- The script leaves the program with its entry routine and the halt flag bound to the number. -/
theorem get?_preset
    (single : Text.lines (presetText number).toList = [(presetText number).toList]) :
    (preset number).get? Variable.haltFlag = some (.int (Int64.ofNat number)) ∧
      (preset number).get? Variable.entry = some (.routine Variable.entry) := by
  have urs : (Source.inline "preset.urs" (presetText number)).extension? = some "urs" := by
    show (Source.inline "preset.urs" "").extension? = some "urs"
    decide
  have loaded : (Engine.load (Engine.fresh : Scope) counterSource).scope = counter.bind ∅ :=
    Urcl.scope_load (by decide) rfl ∅
  have ran : preset number =
      (counter.bind ∅).insert Variable.haltFlag (.int (Int64.ofNat number)) := by
    rw [preset, loaded, Urcl.scope_load_script urs, Source.inline, Script.run, single,
      Script.runLines, Script.runLine, String.ofList_toList, parse_presetText fits]
    rfl
  rw [ran, FiniteMap.get?_insert_self, FiniteMap.get?_insert_of_ne _ _ (by decide),
    Program.get?_bind_entry]
  exact ⟨rfl, rfl⟩

end Preset

/-- The two readings of the halt flag agree on every value but those that are false in a condition
without being the flag `false`: the session reads the program as halted exactly if the next step
does not enter the loop, and else the step takes one turn. A program that is shown as halted does
then not advance, a step writes its two flags and nothing else. On the values that are left out the
session reads the program as halted, and the step takes its turn all the same. -/
theorem halted_iff_idles {scope : Scope} (visited : Visited scope) {flag : Value}
    (bound : scope.get? Variable.haltFlag = some flag)
    (entry : scope.get? Variable.entry = some (.routine Variable.entry)) :
    (flag.isLooselyFalse = false →
      ((Signals.read scope).halted = true ↔ Machine.Idles scope) ∧
      ((Signals.read scope).halted = false ↔ Machine.Steps 1 scope (Engine.step scope)) ∧
      ∀ session : Session Scope, session.scope = scope → session.runState = .halted →
        Engine.step scope = (.ok (), (scope.insert Variable.stepFlag (.bool true)).insert
          Variable.breakFlag (.bool false))) ∧
    (flag.isLooselyFalse = true →
      (Signals.read scope).halted = true ∧ Machine.Steps 1 scope (Engine.step scope)) := by
  have held := genuine_of_visited visited
  have idles := Machine.idles_iff entry held bound
  have reads := Signals.halted_read bound
  constructor
  · intro strict
    have condition : flag ≠ .bool false ↔ flag.isTruthy = true := by
      refine ⟨fun different => ?_, ?_⟩
      · simpa [Value.isLooselyFalse, different] using strict
      · rintro truth rfl
        contradiction
    have agree : (Signals.read scope).halted = true ↔ Machine.Idles scope :=
      reads.trans (condition.trans idles.symm)
    refine ⟨agree, ?_, ?_⟩
    · rw [Machine.steps_one_iff entry held bound, ← agree, Bool.not_eq_true]
    · rintro session rfl shown
      have stopped := Machine.halted_prepared bound
      rw [condition.mp (reads.mp (Session.halted_of_runState shown))] at stopped
      exact (Machine.step_of_stopped entry stopped).2
  · intro loose
    obtain ⟨untrue, different⟩ : flag.isTruthy = false ∧ flag ≠ .bool false := by
      simpa [Value.isLooselyFalse] using loose
    refine ⟨reads.mpr different, (Machine.steps_one_iff entry held bound).mpr fun idle => ?_⟩
    rw [idles.mp idle] at untrue
    contradiction

/-- After a script that binds the halt flag to one a program is read as halted and does not go
on. -/
theorem halted_iff_idles_one : ∃ flag, Visited (preset 1) ∧
    (preset 1).get? Variable.haltFlag = some flag ∧
    (preset 1).get? Variable.entry = some (.routine Variable.entry) ∧
    flag.isLooselyFalse = false ∧
    ((Signals.read (preset 1)).halted = true ↔ Machine.Idles (preset 1)) := by
  have visited := visited_preset 1
  obtain ⟨bound, entry⟩ := @get?_preset 1 (by decide) (by decide)
  have strict : (Value.int (Int64.ofNat 1)).isLooselyFalse = false := by decide
  exact ⟨_, visited, bound, entry, strict, ((halted_iff_idles visited bound entry).1 strict).1⟩

/-- After a script that binds the halt flag to zero a program is read as halted that goes on. -/
theorem halted_not_idles_of_zero :
    Visited (preset 0) ∧ (preset 0).get? Variable.haltFlag = some (.int 0) ∧
      (preset 0).get? Variable.entry = some (.routine Variable.entry) ∧
      ¬ ((Signals.read (preset 0)).halted = true ↔ Machine.Idles (preset 0)) := by
  have visited := visited_preset 0
  obtain ⟨bound, entry⟩ := @get?_preset 0 (by decide) (by decide)
  refine ⟨visited, bound, entry, fun agree => ?_⟩
  have halted := (Signals.halted_read bound).mpr (by decide)
  have idle := (Machine.idles_iff entry (genuine_of_visited visited) bound).mp (agree.mp halted)
  exact absurd idle (by decide)

end UrclDebugger
