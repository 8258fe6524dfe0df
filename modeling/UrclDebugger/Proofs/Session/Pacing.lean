import UrclDebugger.Options
import UrclDebugger.Proofs.Session.Running

/-!
# The pace of a run

A pacer is asked calls of seven kinds in any order, and the moments that come with them may also go
back. What it allows can be told from the calls alone: whether a run is going on (`Call.Running`),
whether a step is being taken (`Call.Stepping`), and when the last step of the run was due. The
moments of the steps that were due lie at least one interval apart, and so do the start of the run
and the first of them; so there are no more of them than whole intervals have passed, however late
or often the pacer is asked (`ticks_paced`). Nothing depends on the unit in which moments are
counted.
-/

namespace UrclDebugger.Pacer

/-- What a pacer can be asked. -/
inductive Call where
  | start (now : Nat)
  | stop
  | beginStep
  | endStep
  | afterStep (signals : Signals)
  | takeTick (now : Nat)
  | timeUntilTick (now : Nat)

namespace Call

/-- Whether a call starts a run. -/
@[simp] def starts : Call → Bool
  | .start _ => true
  | _ => false

/-- Whether a call ends a run, if there is one. -/
@[simp] def endsRun : Call → Bool
  | .stop => true
  | .afterStep signals => signals.shouldStop
  | _ => false

/-- Whether a step is being taken after a call, whatever was before. -/
@[simp] def beginsStep : Call → Bool
  | .beginStep => true
  | _ => false

/-- Whether no step is being taken after a call, whatever was before. -/
@[simp] def endsStep : Call → Bool
  | .endStep => true
  | _ => false

/-- The moment that comes with a call. -/
def time? : Call → Option Nat
  | .start now | .takeTick now | .timeUntilTick now => some now
  | _ => none

/-- A run is going on after calls: one was started, and nothing has ended it since. -/
def Running (calls : List Call) : Prop :=
  ∃ earlier now later, calls = earlier ++ .start now :: later ∧
    ∀ call ∈ later, call.endsRun = false

/-- A step is being taken after calls: one was begun and not ended since. -/
def Stepping (calls : List Call) : Prop :=
  ∃ earlier later, calls = earlier ++ .beginStep :: later ∧ .endStep ∉ later

theorem starts_eq_true_iff {call : Call} : call.starts = true ↔ ∃ now, call = .start now := by
  cases call <;> simp

theorem beginsStep_eq_true_iff {call : Call} : call.beginsStep = true ↔ call = .beginStep := by
  cases call <;> simp

theorem endsStep_eq_true_iff {call : Call} : call.endsStep = true ↔ call = .endStep := by
  cases call <;> simp

end Call

/-- A pacer that was not asked anything. The moment at which it was made stands in place of a last
step. -/
def made (interval moment : Nat) : Pacer := { interval := interval, lastTick := moment }

/-- The pacer after a call. -/
def next (pacer : Pacer) : Call → Pacer
  | .start now => pacer.start now
  | .stop => pacer.stop
  | .beginStep => pacer.beginStep?.getD pacer
  | .endStep => pacer.endStep
  | .afterStep signals => pacer.afterStep signals
  | .takeTick now => (pacer.takeTick? now).getD pacer
  | .timeUntilTick _ => pacer

/-- The pacer after calls. -/
def after (pacer : Pacer) (calls : List Call) : Pacer := calls.foldl next pacer

/-- The moment of the step that a call takes, if it takes one that is due. -/
def tick? (pacer : Pacer) : Call → Option Nat
  | .takeTick now => (pacer.takeTick? now).map fun _ => now
  | _ => none

/-- The moments of the steps that calls take, in order. -/
def ticks (pacer : Pacer) : List Call → List Nat
  | [] => []
  | call :: rest => (pacer.tick? call).toList ++ (pacer.next call).ticks rest

section Calls

variable (pacer : Pacer) (call : Call) (calls : List Call)

theorem after_cons : pacer.after (call :: calls) = (pacer.next call).after calls := rfl

theorem after_append (more : List Call) :
    pacer.after (calls ++ more) = (pacer.after calls).after more := List.foldl_append

/-- A step is due during a run while no step is being taken and an interval has passed. -/
theorem takeTick?_eq_some_iff {now : Nat} {due : Pacer} :
    pacer.takeTick? now = some due ↔ pacer.running = true ∧ pacer.stepping = false ∧
      pacer.interval ≤ now - pacer.lastTick ∧ due = { pacer with lastTick := now } := by
  unfold takeTick?
  split
  · rename_i admitted
    simp only [Bool.and_eq_true, Bool.not_eq_true', decide_eq_true_eq] at admitted
    simp [admitted, eq_comm]
  · rename_i refused
    simp only [Bool.and_eq_true, Bool.not_eq_true', decide_eq_true_eq] at refused
    constructor
    · exact nofun
    · rintro ⟨running, free, passed, _⟩
      exact absurd ⟨⟨running, free⟩, passed⟩ refused

theorem isSome_takeTick? {now : Nat} : (pacer.takeTick? now).isSome = true ↔
    pacer.running = true ∧ pacer.stepping = false ∧ pacer.interval ≤ now - pacer.lastTick := by
  simp [Option.isSome_iff_exists, takeTick?_eq_some_iff]

/-- What one call makes of a pacer: its interval stays, the two flags are set and reset, and the
last step changes only with a start and with a step that is taken. -/
theorem next_eq : pacer.next call =
    { interval := pacer.interval
      running := Latch.next Call.starts Call.endsRun pacer.running call
      stepping := Latch.next Call.beginsStep Call.endsStep pacer.stepping call
      lastTick :=
        match call with
        | .start now => now
        | _ => (pacer.tick? call).getD pacer.lastTick } := by
  obtain ⟨interval, running, stepping, lastTick⟩ := pacer
  cases call with
  | start now => simp [next, start, Latch.next]
  | stop => simp [next, stop, tick?, Latch.next]
  | beginStep => cases stepping <;> simp [next, beginStep?, tick?, Latch.next]
  | endStep => simp [next, endStep, tick?, Latch.next]
  | afterStep signals =>
    cases running <;> cases stop : signals.shouldStop <;>
      simp [next, afterStep, endsRun, Pacer.stop, stop, tick?, Latch.next]
  | takeTick now =>
    cases due : takeTick? ⟨interval, running, stepping, lastTick⟩ now with
    | none => simp [next, due, tick?, Latch.next]
    | some taken =>
      obtain ⟨_, _, _, rfl⟩ := (takeTick?_eq_some_iff _).mp due
      simp [next, due, tick?, Latch.next]
  | timeUntilTick now => simp [next, tick?, Latch.next]

theorem interval_after : (pacer.after calls).interval = pacer.interval := by
  induction calls generalizing pacer with
  | nil => rfl
  | cons call rest ih => rw [after_cons, ih, next_eq]

theorem running_after : (pacer.after calls).running =
    calls.foldl (Latch.next Call.starts Call.endsRun) pacer.running :=
  (List.foldl_hom Pacer.running fun pacer call => by rw [next_eq]).symm

theorem stepping_after : (pacer.after calls).stepping =
    calls.foldl (Latch.next Call.beginsStep Call.endsStep) pacer.stepping :=
  (List.foldl_hom Pacer.stepping fun pacer call => by rw [next_eq]).symm

end Calls

section Made

variable {interval moment : Nat} {calls : List Call}

/-- The calls tell whether a run is going on. -/
theorem running_after_made :
    ((made interval moment).after calls).running = true ↔ Call.Running calls := by
  rw [running_after, Latch.foldl_next_eq_true_iff, or_iff_left fun begun => nomatch begun.1]
  constructor
  · rintro ⟨earlier, call, later, same, start, quiet⟩
    obtain ⟨now, rfl⟩ := Call.starts_eq_true_iff.mp start
    exact ⟨earlier, now, later, same, quiet⟩
  · rintro ⟨earlier, now, later, same, quiet⟩
    exact ⟨earlier, .start now, later, same, rfl, quiet⟩

/-- The calls tell whether a step is being taken. -/
theorem stepping_after_made :
    ((made interval moment).after calls).stepping = true ↔ Call.Stepping calls := by
  rw [stepping_after, Latch.foldl_next_eq_true_iff, or_iff_left fun begun => nomatch begun.1]
  have unended (later : List Call) :
      (∀ call ∈ later, call.endsStep = false) ↔ .endStep ∉ later := by
    constructor
    · intro others ended
      exact absurd (others _ ended) (by decide)
    · intro none call member
      rw [← Bool.not_eq_true, Call.endsStep_eq_true_iff]
      rintro rfl
      exact none member
  constructor
  · rintro ⟨earlier, call, later, same, begins, quiet⟩
    obtain rfl := Call.beginsStep_eq_true_iff.mp begins
    exact ⟨earlier, later, same, (unended later).mp quiet⟩
  · rintro ⟨earlier, later, same, quiet⟩
    exact ⟨earlier, .beginStep, later, same, rfl, (unended later).mpr quiet⟩

theorem stepping_after_made_eq_false :
    ((made interval moment).after calls).stepping = false ↔ ¬ Call.Stepping calls := by
  rw [← Bool.not_eq_true]
  exact not_congr stepping_after_made

end Made

section Run

variable {pacer : Pacer} {call : Call} {calls : List Call}

/-- A call that starts no run takes no step and leaves the last one, or takes a step that is due. -/
theorem tick?_cases (positive : 1 ≤ pacer.interval) (unstarted : call.starts = false) :
    (pacer.tick? call = none ∧ (pacer.next call).lastTick = pacer.lastTick) ∨
      ∃ now, pacer.tick? call = some now ∧ (pacer.next call).lastTick = now ∧
        pacer.lastTick + pacer.interval ≤ now := by
  have last : (pacer.next call).lastTick = (pacer.tick? call).getD pacer.lastTick := by
    rw [next_eq]
    cases call <;> first | rfl | contradiction
  rw [last]
  cases due : pacer.tick? call with
  | none => exact .inl ⟨rfl, rfl⟩
  | some now =>
    refine .inr ⟨now, rfl, rfl, ?_⟩
    cases call with
    | takeTick moment =>
      obtain ⟨taken, admitted, rfl⟩ := Option.map_eq_some_iff.mp due
      obtain ⟨_, _, passed, _⟩ := (takeTick?_eq_some_iff pacer).mp admitted
      omega
    | _ => contradiction

/-- During a run the steps that are due lie at least one interval apart, the first one behind the
start, and the last one is remembered. By induction on the calls: the last step before them moves
on. -/
theorem spaced_ticks (positive : 1 ≤ pacer.interval)
    (unstarted : ∀ call ∈ calls, call.starts = false) :
    (pacer.lastTick :: pacer.ticks calls).Pairwise
        (fun former latter => former + pacer.interval ≤ latter) ∧
      (pacer.after calls).lastTick = (pacer.ticks calls).getLastD pacer.lastTick := by
  induction calls generalizing pacer with
  | nil => exact ⟨List.pairwise_singleton _ _, rfl⟩
  | cons call rest ih =>
    obtain ⟨here, others⟩ := List.forall_mem_cons.mp unstarted
    have same : (pacer.next call).interval = pacer.interval := by rw [next_eq]
    have still : 1 ≤ (pacer.next call).interval := same ▸ positive
    obtain ⟨spaced, last⟩ := ih still others
    rw [same] at spaced
    rw [after_cons, last, ticks]
    rcases tick?_cases positive here with ⟨none, unmoved⟩ | ⟨now, due, moved, passed⟩
    · rw [unmoved] at spaced ⊢
      simp only [none, Option.toList_none, List.nil_append]
      exact ⟨spaced, trivial⟩
    · rw [moved] at spaced ⊢
      simp only [due, Option.toList_some, List.singleton_append, List.getLastD_cons, and_true]
      refine List.pairwise_cons.mpr ⟨?_, spaced⟩
      intro latter member
      rcases List.mem_cons.mp member with rfl | member
      · exact passed
      · have apart := List.rel_of_pairwise_cons spaced member
        omega

/-- Moments that lie an interval apart take up as many intervals. -/
theorem length_mul_le {interval started limit : Nat} {moments : List Nat}
    (spaced : (started :: moments).Pairwise fun former latter => former + interval ≤ latter)
    (bounded : ∀ moment ∈ moments, moment ≤ limit) (begun : started ≤ limit) :
    started + moments.length * interval ≤ limit := by
  induction moments generalizing started with
  | nil => simpa using begun
  | cons first rest ih =>
    obtain ⟨here, others⟩ := List.forall_mem_cons.mp bounded
    have passed := List.rel_of_pairwise_cons spaced List.mem_cons_self
    have later := ih (List.Pairwise.of_cons spaced) others here
    rw [List.length_cons, Nat.succ_mul]
    omega

/-- Up to any moment there are no more moments that lie an interval apart than whole intervals. -/
theorem length_filter_le {interval started : Nat} (positive : 1 ≤ interval) {moments : List Nat}
    (spaced : (started :: moments).Pairwise fun former latter => former + interval ≤ latter)
    (limit : Nat) : (moments.filter (· ≤ limit)).length ≤ (limit - started) / interval := by
  rw [Nat.le_div_iff_mul_le positive]
  have bounded : ∀ moment ∈ moments.filter (· ≤ limit), moment ≤ limit := by
    intro moment member
    simpa using (List.mem_filter.mp member).2
  rcases Nat.lt_or_ge limit started with before | begun
  · have nothing : moments.filter (· ≤ limit) = [] := by
      refine List.filter_eq_nil_iff.mpr fun moment member => ?_
      have passed := List.rel_of_pairwise_cons spaced member
      simp only [decide_eq_true_eq]
      omega
    simp [nothing]
  · have kept := spaced.sublist
      ((List.filter_sublist (p := (· ≤ limit)) (l := moments)).cons_cons started)
    have taken := length_mul_le kept bounded begun
    omega

end Run

/-- How steps are paced. The interval that the options give is never zero. Take a pacer with such an
interval and any calls, and then a start with no other one behind it. The moments of the steps that
are taken lie at least one interval apart, the start counting as the first; so up to any moment
there are no more of them than whole intervals since the start. A step is due exactly if nothing has
ended the run, no step is being taken, and an interval has passed since the last one or the start.
After any calls at all a step is due only if a run is going on and no step is being taken. -/
theorem ticks_paced {interval : Nat} (positive : 1 ≤ interval) (moment started : Nat)
    (earlier later : List Call) (alone : ∀ call ∈ later, call.starts = false) :
    let begun := (made interval moment).after (earlier ++ [.start started])
    let ticks := begun.ticks later
    (∀ options : Options, 1 ≤ options.stepInterval) ∧
    (started :: ticks).Pairwise (fun former latter => former + interval ≤ latter) ∧
    (∀ limit, (ticks.filter (· ≤ limit)).length ≤ (limit - started) / interval) ∧
    (∀ now, ((begun.after later).takeTick? now).isSome = true ↔
      (∀ call ∈ later, call.endsRun = false) ∧
      ¬ Call.Stepping (earlier ++ .start started :: later) ∧
      ticks.getLastD started + interval ≤ now) ∧
    ∀ calls now, (((made interval moment).after calls).takeTick? now).isSome = true →
      Call.Running calls ∧ ¬ Call.Stepping calls := by
  intro begun ticks
  have begins : begun = (made interval moment |>.after earlier).start started := after_append ..
  have paced : begun.interval = interval := interval_after ..
  have last : begun.lastTick = started := by rw [begins]; rfl
  have running : begun.running = true := by rw [begins]; rfl
  have still : 1 ≤ begun.interval := paced ▸ positive
  obtain ⟨spaced, remembered⟩ := spaced_ticks still alone
  rw [last, paced] at spaced
  rw [last] at remembered
  have goesOn : (begun.after later).running = true ↔ ∀ call ∈ later, call.endsRun = false := by
    rw [running_after, Latch.foldl_next_eq_true_iff, running]
    refine (or_iff_right ?_).trans (and_iff_right rfl)
    rintro ⟨_, call, _, rfl, start, _⟩
    have none := alone call (List.mem_append_right _ List.mem_cons_self)
    rw [none] at start
    contradiction
  have joined : begun.after later =
      (made interval moment).after (earlier ++ .start started :: later) := by
    rw [List.append_cons, after_append]
  refine ⟨fun options => Nat.le_max_right _ _, spaced, length_filter_le positive spaced, ?_, ?_⟩
  · intro now
    have free : (begun.after later).stepping = false ↔
        ¬ Call.Stepping (earlier ++ .start started :: later) := by
      rw [joined, stepping_after_made_eq_false]
    rw [isSome_takeTick?, goesOn, free, interval_after, paced, remembered]
    refine and_congr_right fun _ => and_congr_right fun _ => ?_
    show interval ≤ now - ticks.getLastD started ↔ _
    omega
  · intro calls now due
    obtain ⟨on, free, _⟩ := (isSome_takeTick? _).mp due
    exact ⟨running_after_made.mp on, stepping_after_made_eq_false.mp free⟩

/-- A run with an interval of 100 that is started at 1000 and asked at seven moments, once late and
once at a moment that lies back: two steps are taken, of the five that there was time for. -/
theorem ticks_paced_late :
    let later : List Call := [.takeTick 1050, .takeTick 1100, .takeTick 1150, .takeTick 1450,
      .takeTick 900, .timeUntilTick 1460, .takeTick 1500]
    let begun := (made 100 0).after ([.takeTick 500] ++ [.start 1000])
    1 ≤ 100 ∧ (∀ call ∈ later, call.starts = false) ∧ begun.ticks later = [1100, 1450] ∧
      ((begun.ticks later).filter (· ≤ 1500)).length ≤ (1500 - 1000) / 100 ∧
      ((begun.after later).takeTick? 1549).isSome = false := by
  intro later begun
  have alone : ∀ call ∈ later, call.starts = false := by decide
  have taken : begun.ticks later = [1100, 1450] := by decide
  have positive : 1 ≤ 100 := by decide
  obtain ⟨_, _, counted, due, _⟩ := ticks_paced positive 0 1000 [.takeTick 500] later alone
  refine ⟨positive, alone, taken, counted 1500, ?_⟩
  rw [Bool.eq_false_iff, ne_eq, due 1549]
  rintro ⟨_, _, passed⟩
  rw [taken] at passed
  exact absurd passed (by decide)

end UrclDebugger.Pacer
