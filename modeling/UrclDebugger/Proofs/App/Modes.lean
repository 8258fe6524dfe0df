import UrclDebugger.Proofs.App.Visit
import UrclDebugger.Proofs.Session.Rebuild
import UrclDebugger.Proofs.Session.Running

/-!
# Modes refer to loaded sources

In two of its modes an application refers to sources: it waits for the confirmation to take one out,
or for the number of one. Loading and taking out sources, also by a rebuild that was given up, end
these modes or happen outside of them, and the clock leaves the sources alone. So throughout a visit
the mode fits the number of sources that are loaded (`Mode.Fits`), and a program runs by itself only
if one is loaded (`Surroundings.modes_fit`).
-/

namespace UrclDebugger

/-- Whether a mode makes sense with a number of loaded sources. -/
def Mode.Fits (count : Nat) : Mode → Prop
  | .confirmUnload index => index < count
  | .pickUnload digits =>
      2 ≤ count ∧ (∀ c ∈ digits.toList, c.isDigit = true) ∧ (count < 10 → digits = "")
  | .normal | .openPath _ => True

/-- More sources than there were fit as well. -/
theorem Mode.Fits.mono {mode : Mode} {count more : Nat} (fits : mode.Fits count)
    (grown : count ≤ more) : mode.Fits more := by
  cases mode with
  | confirmUnload index => exact Nat.lt_of_lt_of_le fits grown
  | pickUnload digits =>
    obtain ⟨choice, typed, few⟩ := fits
    exact ⟨Nat.le_trans choice grown, typed, fun small => few (Nat.lt_of_le_of_lt grown small)⟩
  | normal => trivial
  | openPath typed => trivial

namespace App

theorem lt_of_sourceIndex? {digits : String} {count index : Nat}
    (found : sourceIndex? digits count = some index) : index < count := by
  unfold sourceIndex? at found
  split at found
  · contradiction
  · dsimp only at found
    split at found
    · obtain rfl := Option.some.inj found
      omega
    · contradiction

/-- Choosing a source anew fits if there is a choice. -/
theorem fits_pickUnload_empty {count : Nat} (choice : 2 ≤ count) :
    (Mode.pickUnload "").Fits count :=
  ⟨choice, nofun, fun _ => rfl⟩

theorem fits_modeAfterDigit {count : Nat} (choice : 2 ≤ count) {digits : String}
    (typed : ∀ c ∈ digits.toList, c.isDigit = true) : (modeAfterDigit digits count).Fits count := by
  unfold modeAfterDigit
  split
  · cases found : sourceIndex? digits count with
    | none => exact fits_pickUnload_empty choice
    | some index => exact lt_of_sourceIndex? found
  · rename_i many
    exact ⟨choice, typed, fun few => absurd few many⟩

section Fits

variable {σ : Type} {app : App σ}

theorem fits_pressPickUnload {digits : String}
    (fits : (Mode.pickUnload digits).Fits app.session.sources.length) (key : Key) :
    (app.pressPickUnload digits key).mode.Fits app.session.sources.length := by
  obtain ⟨choice, typed, few⟩ := fits
  unfold pressPickUnload
  cases key with
  | char c control =>
    dsimp only
    split
    · rename_i digit
      refine fits_modeAfterDigit choice fun other member => ?_
      rw [String.toList_push, List.mem_append, List.mem_singleton] at member
      rcases member with earlier | rfl
      · exact typed other earlier
      · exact digit
    · exact ⟨choice, typed, few⟩
  | backspace =>
    refine ⟨choice, fun c member => ?_, fun small => ?_⟩
    · rw [dropLast, String.toList_ofList] at member
      exact typed c (List.dropLast_subset _ member)
    · rw [few small]
      rfl
  | enter =>
    dsimp only
    cases found : sourceIndex? digits app.session.sources.length with
    | none => exact fits_pickUnload_empty choice
    | some index => exact lt_of_sourceIndex? found
  | escape => trivial
  | _ => exact ⟨choice, typed, few⟩

theorem fits_askUnload (normal : app.mode = .normal) :
    app.askUnload.mode.Fits app.session.sources.length := by
  have said : (app.say "No modules to unload").mode = .normal := normal
  unfold askUnload
  generalize app.session.sources.length = count
  match count with
  | 0 =>
    show (app.say "No modules to unload").mode.Fits 0
    rw [said]
    trivial
  | 1 => exact Nat.one_pos
  | more + 2 => exact fits_pickUnload_empty (Nat.le_add_left 2 more)

/-- A key leaves a mode that fits the sources that there were. -/
theorem fits_modeAfter (fits : app.mode.Fits app.session.sources.length) (key : Key) :
    (app.modeAfter key).Fits app.session.sources.length := by
  unfold modeAfter
  cases mode : app.mode with
  | normal =>
    dsimp only
    unfold modeAfterNormal
    split
    · trivial
    · exact fits_askUnload mode
    · trivial
  | openPath typed =>
    dsimp only
    unfold modeAfterOpenPath
    split <;> trivial
  | pickUnload digits =>
    rw [mode] at fits
    exact fits_pressPickUnload fits key
  | confirmUnload index =>
    rw [mode] at fits
    dsimp only
    split
    · trivial
    · exact fits

end Fits

section Asks

variable {σ : Type} {app : App σ} {now : Nat} {key : Key} {operation : Operation}

/-- What needs sources is asked of a session that has some. -/
theorem sources_of_ifSources {asked : Operation} (asks : app.ifSources asked = some operation) :
    app.session.sources ≠ [] := by
  unfold ifSources at asks
  split at asks
  · contradiction
  · rename_i some
    simpa using some

/-- A key that asks something of the session leaves the normal mode. -/
theorem modeAfter_of_asks (asks : app.asks? now key = some operation) :
    app.modeAfter key = .normal := by
  unfold asks? at asks
  unfold modeAfter
  cases mode : app.mode with
  | normal =>
    rw [mode] at asks
    dsimp only at asks ⊢
    unfold asksNormal? at asks
    split at asks <;> first | rfl | contradiction
  | openPath typed =>
    rw [mode] at asks
    cases key <;> first | rfl | contradiction
  | pickUnload digits =>
    rw [mode] at asks
    contradiction
  | confirmUnload index =>
    rw [mode] at asks
    dsimp only at asks ⊢
    split at asks
    · rename_i confirmed
      rw [confirmed]
      rfl
    · contradiction

/-- A key starts a run only if sources are loaded. -/
theorem sources_of_asks_start {moment : Nat} (asks : app.asks? now key = some (.start moment)) :
    app.session.sources ≠ [] := by
  unfold asks? at asks
  cases mode : app.mode with
  | normal =>
    rw [mode] at asks
    dsimp only at asks
    unfold asksNormal? at asks
    split at asks
    all_goals first | contradiction | exact sources_of_ifSources asks | skip
    split at asks <;> cases asks
  | openPath typed =>
    rw [mode] at asks
    dsimp only at asks
    unfold asksOpenPath? at asks
    split at asks
    · split at asks <;> cases asks
    · contradiction
  | pickUnload digits =>
    rw [mode] at asks
    contradiction
  | confirmUnload index =>
    rw [mode] at asks
    dsimp only at asks
    split at asks <;> cases asks

end Asks

/-- A confirmation takes out the source that it was asked for. -/
theorem press_of_confirms {σ : Type} [Engine σ] {m : Type → Type} [Monad m] (env : Environment m)
    {app : App σ} {index : Nat} (waiting : app.mode = .confirmUnload index) {key : Key}
    (confirms : key.confirms = true) (now : Nat) :
    app.press env now key = { app with mode := .normal }.unload env index := by
  unfold press
  rw [waiting]
  unfold Key.confirms at confirms
  split at confirms
  · rfl
  · rfl
  · rfl
  · contradiction

end App

namespace Session

variable {σ : Type} [Engine σ] (surroundings : Surroundings) (exchange : Exchange)
  {session : Session σ}

/-- Taking out a source that is there builds the workspace anew. -/
theorem unload_ne_unchanged {index : Nat} (inside : index < session.sources.length) :
    ((session.unload surroundings.environment index).run exchange).1.1 ≠ .unchanged := by
  have survives : (Operation.unload index).survivors? session.sources =
      some (session.sources.eraseIdx index) := if_pos inside
  have performed := session.run_perform_of_survivors surroundings exchange survives
  rw [run_perform] at performed
  have reply := congrArg (fun result => result.1.1) performed
  obtain same := Reply.rebuilt.inj reply
  rw [same]
  exact Workspace.rebuild_ne_unchanged surroundings exchange _

/-- Loading takes no source out. -/
theorem length_sources_load (source : Source) : session.sources.length ≤
    (session.answered surroundings exchange (some (.load source))).sources.length := by
  rw [answered_some, run_perform]
  dsimp only
  rw [run_load]
  dsimp only
  split
  · exact Nat.le_refl _
  · show _ ≤ (session.sources ++ [_]).length
    rw [List.length_append]
    exact Nat.le_add_right _ _

/-- The clock leaves the sources alone. -/
theorem sources_tick (free : session.pacer.stepping = false) (now : Nat) :
    (session.answered surroundings exchange (some (.tick now))).sources = session.sources := by
  rw [answered_some, run_perform]
  dsimp only
  rw [run_tick _ _ _ free]
  cases session.pacer.takeTick? now <;> rfl

/-- A step is due only during a run. -/
theorem running_of_ticked (free : session.pacer.stepping = false) {now : Nat}
    (ticked : ((session.tick surroundings.environment now).run exchange).1.1 ≠ none) :
    session.pacer.running = true := by
  rw [run_tick _ _ _ free] at ticked
  cases running : session.pacer.running with
  | true => rfl
  | false =>
    rw [Pacer.takeTick?_of_not_running running] at ticked
    contradiction

/-- A program runs by itself only if a source is loaded. -/
def RunsSources (session : Session σ) : Prop :=
  session.pacer.running = true → session.sources ≠ []

/-- No operation leaves a program running without sources, unless a run is started without any. -/
theorem runsSources_answered (free : session.pacer.stepping = false)
    (sourced : session.RunsSources) {operation? : Option Operation}
    (started : ∀ now, operation? = some (.start now) → session.sources ≠ []) :
    (session.answered surroundings exchange operation?).RunsSources := by
  have rebuilt (operation : Operation) {surviving : List Source}
      (survives : operation.survivors? session.sources = some surviving) :
      (session.answered surroundings exchange (some operation)).RunsSources := by
    rw [answered_some, run_perform_of_survivors surroundings exchange session survives]
    exact nofun
  have stepped (pacer : Pacer) (same : pacer.running = session.pacer.running) :
      (Session.stepped { session with pacer := pacer }).2.RunsSources := by
    intro running
    rw [(stepped_eq _).2] at running
    exact sourced (same ▸ (Bool.and_eq_true_iff.mp running).1)
  cases operation? with
  | none => exact sourced
  | some operation =>
    cases operation with
    | load source =>
      rw [answered_some, run_perform]
      dsimp only
      rw [run_load]
      dsimp only
      split
      · exact sourced
      · exact fun _ => List.append_ne_nil_of_right_ne_nil _ (List.cons_ne_nil _ _)
    | unload index =>
      by_cases inside : index < session.sources.length
      · exact rebuilt (.unload index) (if_pos inside)
      · rw [answered_some, run_perform]
        dsimp only
        rw [run_unload, List.getElem?_eq_none (Nat.le_of_not_lt inside)]
        exact sourced
    | reload => exact rebuilt .reload rfl
    | step =>
      rw [answered_some, run_perform]
      dsimp only
      rw [run_step _ _ _ free]
      exact stepped session.pacer rfl
    | start now => exact fun _ => started now rfl
    | interrupt =>
      rw [answered_some, run_perform]
      dsimp only [interrupt]
      cases session.pacer.running <;> exact nofun
    | tick now =>
      rw [answered_some, run_perform]
      dsimp only
      rw [run_tick _ _ _ free]
      cases due : session.pacer.takeTick? now with
      | none => exact sourced
      | some pacer => exact stepped pacer (Pacer.running_of_takeTick? due)
    | refresh => exact sourced

end Session

namespace Surroundings

variable {σ : Type} [Engine σ] (surroundings : Surroundings) (interval : Nat)

/-- Throughout a visit the mode fits the loaded sources, and a program runs by itself only if one is
loaded. -/
theorem fits_visit (paths : List String) (events : List App.Event) :
    let app : App σ := (surroundings.visit interval paths events).app
    app.mode.Fits app.session.sources.length ∧ app.session.RunsSources := by
  refine (surroundings.visit_induction interval (P := fun app =>
    app.mode.Fits app.session.sources.length ∧ app.session.RunsSources) ⟨trivial, nofun⟩ ?_ ?_
    paths events).1
  · intro app exchange path free held
    obtain ⟨fits, sourced⟩ := held
    have becomes := app.becomes_openSource surroundings exchange (Source.file path)
    rw [becomes.session, becomes.mode]
    exact ⟨fits.mono (Session.length_sources_load surroundings exchange _),
      Session.runsSources_answered surroundings exchange free sourced nofun⟩
  · intro app exchange event free held
    obtain ⟨fits, sourced⟩ := held
    obtain ⟨session, mode, _⟩ := app.respond_eq surroundings exchange free event
    rw [session, mode]
    cases event with
    | press now key =>
      dsimp only [App.Event.asks?, App.Event.modeAfter]
      refine ⟨?_, Session.runsSources_answered surroundings exchange free sourced
        fun moment asks => App.sources_of_asks_start asks⟩
      cases asks : app.asks? now key with
      | none => exact App.fits_modeAfter fits key
      | some operation =>
        rw [App.modeAfter_of_asks asks]
        trivial
    | tick now =>
      dsimp only [App.Event.asks?, App.Event.modeAfter]
      rw [Session.sources_tick surroundings exchange free now]
      exact ⟨fits, Session.runsSources_answered surroundings exchange free sourced nofun⟩
    | draw width height => exact ⟨fits, sourced⟩

/-- Throughout a visit the modes refer to sources that are there. When the confirmation to take out
a source is waited for, its index is that of a loaded one. When a number is typed, there are at
least two sources, only digits were typed, and none as long as there are fewer than ten sources.
While a program runs by itself a source is loaded. So a source that is taken out by a key is always
there to be taken out, and the clock takes no step without sources. -/
theorem modes_fit (paths : List String) (events : List App.Event) :
    let visit : Visit σ := surroundings.visit interval paths events
    let app := visit.app
    (∀ index, app.mode = .confirmUnload index → index < app.session.sources.length) ∧
    (∀ digits, app.mode = .pickUnload digits → 2 ≤ app.session.sources.length ∧
      (∀ c ∈ digits.toList, c.isDigit = true) ∧
      (app.session.sources.length < 10 → digits = "")) ∧
    (app.session.pacer.running = true → app.session.sources ≠ []) ∧
    (∀ now key index, app.mode = .confirmUnload index → key.confirms = true →
      app.press surroundings.environment now key =
        { app with mode := .normal }.unload surroundings.environment index ∧
      ((app.session.unload surroundings.environment index).run visit.exchange).1.1 ≠
        .unchanged) ∧
    ∀ now, ((app.session.tick surroundings.environment now).run visit.exchange).1.1 ≠ none →
      app.session.sources ≠ [] := by
  intro visit app
  obtain ⟨fits, sourced⟩ := surroundings.fits_visit (σ := σ) interval paths events
  have free := surroundings.stepping_visit (σ := σ) interval paths events
  have confirming (index : Nat) (mode : app.mode = .confirmUnload index) :
      index < app.session.sources.length := by
    change app.mode.Fits _ at fits
    rw [mode] at fits
    exact fits
  refine ⟨confirming, ?_, sourced, ?_, ?_⟩
  · intro digits mode
    change app.mode.Fits _ at fits
    rw [mode] at fits
    exact fits
  · intro now key index mode confirms
    exact ⟨App.press_of_confirms _ mode confirms now,
      Session.unload_ne_unchanged surroundings visit.exchange (confirming index mode)⟩
  · intro now ticked
    exact sourced (Session.running_of_ticked surroundings visit.exchange free ticked)

end Surroundings

end UrclDebugger
