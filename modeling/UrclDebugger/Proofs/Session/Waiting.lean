import UrclDebugger.App.Loop
import UrclDebugger.Proofs.Session.Pacing
import UrclDebugger.Urcl

/-!
# Waiting for the next step of a run

A pacer says how long there is to wait until a step is due, and whether one is due now. The two
agree as long as no moment lies before those that came with earlier calls: after the time to wait a
step is due, and before it none is (`waits_until_due`). The loop of the application waits no longer
than that, so it never misses a step.
-/

namespace UrclDebugger.Pacer

section Last

variable (pacer : Pacer) (calls : List Call)

/-- A call leaves the last step where it was or moves it to the moment that came with the call. -/
theorem lastTick_next (call : Call) :
    (pacer.next call).lastTick = pacer.lastTick ∨ (pacer.next call).lastTick ∈ call.time? := by
  rw [next_eq]
  cases call with
  | start now => exact .inr rfl
  | takeTick now =>
    dsimp only [tick?]
    cases pacer.takeTick? now with
    | none => exact .inl rfl
    | some due => exact .inr rfl
  | _ => exact .inl rfl

/-- The last step was at a moment that came with one of the calls, unless it was before them. -/
theorem lastTick_after : (pacer.after calls).lastTick = pacer.lastTick ∨
    ∃ call ∈ calls, (pacer.after calls).lastTick ∈ call.time? := by
  induction calls generalizing pacer with
  | nil => exact .inl rfl
  | cons call rest ih =>
    rw [after_cons]
    rcases ih (pacer.next call) with unmoved | ⟨other, member, moved⟩
    · rw [unmoved]
      exact (pacer.lastTick_next call).imp_right fun moved => ⟨call, List.mem_cons_self, moved⟩
    · exact .inr ⟨other, List.mem_cons_of_mem _ member, moved⟩

end Last

/-- During a run neither the start nor the last step lies behind a moment that no call has passed.
-/
theorem lastTick_le {interval moment now : Nat} {calls : List Call}
    (passed : ∀ call ∈ calls, ∀ time ∈ call.time?, time ≤ now) (running : Call.Running calls) :
    ((made interval moment).after calls).lastTick ≤ now := by
  obtain ⟨earlier, started, later, rfl, _⟩ := running
  rw [after_append, after_cons]
  have begun : ((made interval moment |>.after earlier).next (.start started)).lastTick = started :=
    rfl
  rcases lastTick_after ((made interval moment |>.after earlier).next (.start started)) later with
    unmoved | ⟨call, member, moved⟩
  · rw [unmoved, begun]
    exact passed (.start started) (List.mem_append_right _ List.mem_cons_self) started rfl
  · exact passed call (List.mem_append_right _ (List.mem_cons_of_mem _ member)) _ moved

/-- Time to wait is told during a run only. -/
theorem timeUntilTick?_eq_none_iff {pacer : Pacer} {now : Nat} :
    pacer.timeUntilTick? now = none ↔ pacer.running = false := by
  unfold timeUntilTick?
  cases pacer.running <;> simp

theorem timeUntilTick?_eq_some_iff {pacer : Pacer} {now wait : Nat} :
    pacer.timeUntilTick? now = some wait ↔
      pacer.running = true ∧ wait = pacer.interval - (now - pacer.lastTick) := by
  unfold timeUntilTick?
  cases pacer.running <;> simp [eq_comm]

/-- Where the last step does not lie behind the present moment, a step is due exactly from the end
of the time to wait on. -/
theorem isSome_takeTick?_iff_wait_le {pacer : Pacer} {now wait : Nat}
    (free : pacer.stepping = false) (begun : pacer.running = true → pacer.lastTick ≤ now)
    (told : pacer.timeUntilTick? now = some wait) (delay : Nat) :
    (pacer.takeTick? (now + delay)).isSome = true ↔ wait ≤ delay := by
  obtain ⟨running, rfl⟩ := timeUntilTick?_eq_some_iff.mp told
  have before := begun running
  rw [isSome_takeTick?]
  simp only [running, free, true_and]
  omega

/-- The time to wait agrees with the steps that are due. Take any calls whose moments do not lie
behind the present one, and no step that is being taken. A time to wait is told exactly if a run is
going on. It is at most the interval; a step is due when it is over and at every moment after that,
and none before; it is zero exactly if a step is due now. However long the loop of the application
waits for a key, no step is due before the wait is over, and if the wait was not cut short one is
due then. -/
theorem waits_until_due {σ : Type} (interval moment now : Nat) (calls : List Call)
    (passed : ∀ call ∈ calls, ∀ time ∈ call.time?, time ≤ now) (free : ¬ Call.Stepping calls) :
    let pacer := (made interval moment).after calls
    (pacer.timeUntilTick? now = none ↔ ¬ Call.Running calls) ∧
    (∀ wait, pacer.timeUntilTick? now = some wait → wait ≤ interval ∧
      (pacer.takeTick? (now + wait)).isSome = true ∧
      (∀ delay < wait, pacer.takeTick? (now + delay) = none) ∧
      (∀ delay, wait ≤ delay → (pacer.takeTick? (now + delay)).isSome = true) ∧
      (wait = 0 ↔ (pacer.takeTick? now).isSome = true)) ∧
    ∀ app : App σ, app.session.pacer = pacer →
      (∀ delay < app.patience now, pacer.takeTick? (now + delay) = none) ∧
      ∀ wait ≤ longestWait, pacer.timeUntilTick? now = some wait →
        (pacer.takeTick? (now + app.patience now)).isSome = true := by
  intro pacer
  have going : pacer.running = true ↔ Call.Running calls := running_after_made
  have idle : pacer.stepping = false := stepping_after_made_eq_false.mpr free
  have begun : pacer.running = true → pacer.lastTick ≤ now :=
    fun running => lastTick_le passed (going.mp running)
  have paced : pacer.interval = interval := interval_after ..
  have due {wait : Nat} (told : pacer.timeUntilTick? now = some wait) (delay : Nat) :
      (pacer.takeTick? (now + delay)).isSome = true ↔ wait ≤ delay :=
    isSome_takeTick?_iff_wait_le idle begun told delay
  have early {wait : Nat} (told : pacer.timeUntilTick? now = some wait) {delay : Nat}
      (before : delay < wait) : pacer.takeTick? (now + delay) = none := by
    rw [← Option.not_isSome_iff_eq_none, due told]
    omega
  refine ⟨?_, fun wait told => ⟨?_, (due told wait).mpr (Nat.le_refl _), fun delay => early told,
    fun delay => (due told delay).mpr, ?_⟩, fun app same => ⟨?_, ?_⟩⟩
  · rw [timeUntilTick?_eq_none_iff, ← going, Bool.not_eq_true]
  · obtain ⟨_, rfl⟩ := timeUntilTick?_eq_some_iff.mp told
    exact paced ▸ Nat.sub_le _ _
  · have here := due told 0
    rw [Nat.add_zero] at here
    rw [here]
    omega
  · intro delay before
    unfold App.patience at before
    rw [same] at before
    cases told : pacer.timeUntilTick? now with
    | none =>
      have stopped : pacer.running = false := timeUntilTick?_eq_none_iff.mp told
      exact takeTick?_of_not_running stopped _
    | some wait =>
      rw [told] at before
      exact early told (Nat.lt_of_lt_of_le before (Nat.min_le_left _ _))
  · intro wait short told
    rw [due told]
    unfold App.patience
    rw [same, told]
    exact Nat.le_min.mpr ⟨Nat.le_refl _, short⟩

/-- A run with an interval of 100 that was started at 1000 and is asked at 1070 waits 30; the loop
of the application sleeps for just that time. -/
theorem waits_until_due_seventy :
    let calls : List Call := [.start 1000, .takeTick 1050, .beginStep, .endStep]
    let pacer := (made 100 0).after calls
    let app : App Scope := { session := { (Session.new 100 : Session Scope) with pacer := pacer } }
    (∀ call ∈ calls, ∀ time ∈ call.time?, time ≤ 1070) ∧ ¬ Call.Stepping calls ∧
      pacer.timeUntilTick? 1070 = some 30 ∧ pacer.takeTick? 1099 = none ∧
      (pacer.takeTick? 1100).isSome = true ∧ app.patience 1070 = 30 := by
  intro calls pacer app
  have passed : ∀ call ∈ calls, ∀ time ∈ call.time?, time ≤ 1070 := by decide
  have idle : ((made 100 0).after calls).stepping = false := by decide
  have free : ¬ Call.Stepping calls := stepping_after_made_eq_false.mp idle
  have told : pacer.timeUntilTick? 1070 = some 30 := by decide
  obtain ⟨_, waits, _⟩ := waits_until_due (σ := Scope) 100 0 1070 calls passed free
  obtain ⟨_, due, early, _⟩ := waits 30 told
  exact ⟨passed, free, told, early 29 (by decide), due, by decide⟩

end UrclDebugger.Pacer
