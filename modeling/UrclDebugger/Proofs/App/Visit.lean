import UrclDebugger.App.Loop
import UrclDebugger.Proofs.Session.Operation

/-!
# Visits to the application

A visit begins with a new application that loads the sources named at the start. Then keys are
pressed, the clock is looked at, and the screen is drawn, in any order and at any moments. Of the
session an event asks at most one operation (`App.Event.asks?`), and what it does to the mode can be
told from the mode and the key (`App.modeAfter`). What every event keeps holds throughout a visit
(`Surroundings.visit_induction`).
-/

namespace UrclDebugger

/-- Whether a key stands for a confirmation. -/
def Key.confirms : Key → Bool
  | .char 'y' _ | .char 'Y' _ | .enter => true
  | _ => false

/-- Whether a key stands for a refusal. -/
def Key.refuses : Key → Bool
  | .char 'n' _ | .char 'N' _ | .escape => true
  | _ => false

namespace App

/-- What happens to an application. -/
inductive Event where
  | press (now : Nat) (key : Key)
  | tick (now : Nat)
  | draw (width height : Nat)

section Respond

variable {σ : Type} [Engine σ]

/-- What an application does when something happens. -/
def respond {m : Type → Type} [Monad m] (env : Environment m) (app : App σ) : Event → m (App σ)
  | .press now key => app.press env now key
  | .tick now => return (← app.tick env now).getD app
  | .draw width height => return app.draw width height

variable (app : App σ)

/-- Something that is asked of a session with sources only. -/
def ifSources (operation : Operation) : Option Operation :=
  if app.session.sources.isEmpty then none else some operation

/-- What a key in normal mode asks of the session. -/
def asksNormal? (now : Nat) : Key → Option Operation
  | .char 's' _ | .right => app.ifSources .step
  | .char 'r' _ => app.ifSources (.start now)
  | .char ' ' _ => if app.session.pacer.running then some .interrupt else none
  | .char 'R' _ => app.ifSources .reload
  | _ => none

/-- What a key asks of the session while a path is typed. -/
def asksOpenPath? (typed : String) : Key → Option Operation
  | .enter =>
    match Text.trim typed.toList with
    | [] => none
    | path => some (.load (Source.file (String.ofList path)))
  | _ => none

/-- What a key asks of the session. -/
def asks? (now : Nat) (key : Key) : Option Operation :=
  match app.mode with
  | .normal => app.asksNormal? now key
  | .openPath typed => asksOpenPath? typed key
  | .pickUnload _ => none
  | .confirmUnload index => if key.confirms then some (.unload index) else none

/-- The mode after a key in normal mode. -/
def modeAfterNormal : Key → Mode
  | .char 'o' _ => .openPath ""
  | .char 'u' _ => app.askUnload.mode
  | _ => .normal

/-- The mode after a key while a path is typed. -/
def modeAfterOpenPath (typed : String) : Key → Mode
  | .enter | .escape => .normal
  | .backspace => .openPath (dropLast typed)
  | .char c _ => .openPath (typed.push c)
  | _ => .openPath typed

/-- The mode after a key. -/
def modeAfter (key : Key) : Mode :=
  match app.mode with
  | .normal => app.modeAfterNormal key
  | .openPath typed => modeAfterOpenPath typed key
  | .pickUnload digits => (app.pressPickUnload digits key).mode
  | .confirmUnload index =>
    if key.confirms || key.refuses then .normal else .confirmUnload index

namespace Event

/-- What an event asks of the session. -/
def asks? : Event → Option Operation
  | .press now key => app.asks? now key
  | .tick now => some (.tick now)
  | .draw _ _ => none

/-- The mode after an event. -/
def modeAfter : Event → Mode
  | .press _ key => app.modeAfter key
  | _ => app.mode

end Event

end Respond

end App

/-- A session after it was asked for an operation, if it was. -/
def Session.answered {σ : Type} [Engine σ] (surroundings : Surroundings) (exchange : Exchange)
    (session : Session σ) : Option Operation → Session σ
  | none => session
  | some operation => ((session.perform surroundings.environment operation).run exchange).1.2

theorem Session.answered_some {σ : Type} [Engine σ] (surroundings : Surroundings)
    (exchange : Exchange) (session : Session σ) (operation : Operation) :
    session.answered surroundings exchange (some operation) =
      ((session.perform surroundings.environment operation).run exchange).1.2 := rfl

namespace App

/-- What becomes of an application: its session and its mode are the given ones, and it was not
drawn. What is said and shown beside that is left open. -/
structure Becomes {σ : Type} (app : App σ) (session : Session σ) (mode : Mode) (after : App σ) :
    Prop where
  session : after.session = session
  mode : after.mode = mode
  drawn : after.drawnRevision = app.drawnRevision

section Report

variable {σ : Type} {app : App σ} {session : Session σ} {mode : Mode} {after : App σ}

/-- It does not matter in which mode the application was. -/
theorem Becomes.of_mode {before : Mode}
    (becomes : Becomes { app with mode := before } session mode after) :
    app.Becomes session mode after :=
  ⟨becomes.session, becomes.mode, becomes.drawn⟩

variable (app session)

theorem becomes_reportStep (outcome : StepOutcome) :
    app.Becomes session app.mode ({ app with session := session }.reportStep outcome) := by
  unfold reportStep
  cases outcome with
  | completed signals =>
    dsimp only
    repeat' split
    all_goals exact ⟨rfl, rfl, rfl⟩
  | failed error => exact ⟨rfl, rfl, rfl⟩
  | skipped => exact ⟨rfl, rfl, rfl⟩

theorem becomes_reportRebuild (surroundings : Surroundings) (exchange : Exchange) (verb : String)
    (rebuild : Rebuild) :
    app.Becomes session app.mode ((reportRebuild surroundings.environment verb rebuild
      { app with session := session }).run exchange).1 := by
  cases rebuild <;> exact ⟨rfl, rfl, rfl⟩

theorem becomes_askUnload : app.Becomes app.session app.askUnload.mode app.askUnload := by
  unfold askUnload
  split <;> exact ⟨rfl, rfl, rfl⟩

theorem becomes_pressPickUnload (digits : String) (key : Key) :
    app.Becomes app.session (app.pressPickUnload digits key).mode
      (app.pressPickUnload digits key) := by
  unfold pressPickUnload
  cases key with
  | char c control =>
    dsimp only
    split <;> exact ⟨rfl, rfl, rfl⟩
  | enter =>
    dsimp only
    cases sourceIndex? digits app.session.sources.length <;> exact ⟨rfl, rfl, rfl⟩
  | _ => exact ⟨rfl, rfl, rfl⟩

end Report

section Run

variable {σ : Type} [Engine σ] (surroundings : Surroundings) (exchange : Exchange) (app : App σ)

theorem becomes_step : app.Becomes (app.session.answered surroundings exchange (some .step))
    app.mode ((app.step surroundings.environment).run exchange).1 :=
  app.becomes_reportStep _ _

theorem becomes_openSource (source : Source) :
    app.Becomes (app.session.answered surroundings exchange (some (.load source))) app.mode
      ((app.openSource surroundings.environment source).run exchange).1.2 := by
  unfold openSource
  rw [Recorded.run_bind]
  dsimp only
  split <;> exact ⟨rfl, rfl, rfl⟩

theorem becomes_reload : app.Becomes (app.session.answered surroundings exchange (some .reload))
    app.mode ((app.reload surroundings.environment).run exchange).1 :=
  app.becomes_reportRebuild _ surroundings _ _ _

theorem becomes_unload (index : Nat) :
    app.Becomes (app.session.answered surroundings exchange (some (.unload index))) app.mode
      ((app.unload surroundings.environment index).run exchange).1 :=
  app.becomes_reportRebuild _ surroundings _ _ _

/-- What needs sources is asked of a session that has some. -/
theorem becomes_withSources (operation : Operation) {action : App σ → Recorded (App σ)}
    (acts : app.Becomes (app.session.answered surroundings exchange (some operation)) app.mode
      ((action app).run exchange).1) :
    app.Becomes (app.session.answered surroundings exchange (app.ifSources operation)) app.mode
      ((app.withSources action).run exchange).1 := by
  unfold withSources ifSources
  split
  · exact ⟨rfl, rfl, rfl⟩
  · exact acts

theorem becomes_pressNormal (normal : app.mode = .normal) (now : Nat) (key : Key) :
    app.Becomes (app.session.answered surroundings exchange (app.asksNormal? now key))
      (app.modeAfterNormal key)
      ((app.pressNormal surroundings.environment now key).run exchange).1 := by
  have asking (operation : Operation) {action : App σ → Recorded (App σ)}
      (acts : app.Becomes (app.session.answered surroundings exchange (some operation)) app.mode
        ((action app).run exchange).1) :
      app.Becomes (app.session.answered surroundings exchange (app.ifSources operation)) .normal
        ((app.withSources action).run exchange).1 :=
    normal ▸ app.becomes_withSources surroundings exchange operation acts
  have idle : app.Becomes app.session .normal app := ⟨rfl, normal, rfl⟩
  fun_cases App.pressNormal surroundings.environment now app key with
  | case3 | case4 => exact asking .step (app.becomes_step surroundings exchange)
  | case5 => exact asking (.start now) ⟨rfl, rfl, rfl⟩
  | case6 control running =>
    have asked : app.asksNormal? now (.char ' ' control) = some .interrupt := if_pos running
    rw [asked]
    exact ⟨rfl, normal, rfl⟩
  | case7 control stopped =>
    have silent : app.asksNormal? now (.char ' ' control) = none := if_neg stopped
    rw [silent]
    exact idle
  | case8 => exact ⟨rfl, rfl, rfl⟩
  | case9 => exact asking .reload (app.becomes_reload surroundings exchange)
  | case10 => exact app.becomes_askUnload
  | case18 =>
    have silent : app.asksNormal? now key = none := by
      unfold asksNormal?
      split <;> first | rfl | (exfalso; simp_all)
    have stays : app.modeAfterNormal key = .normal := by
      unfold modeAfterNormal
      split <;> first | rfl | (exfalso; simp_all)
    rw [silent, stays]
    exact idle
  | _ => exact ⟨rfl, normal, rfl⟩

theorem becomes_pressOpenPath (typed : String) (key : Key) :
    app.Becomes (app.session.answered surroundings exchange (asksOpenPath? typed key))
      (modeAfterOpenPath typed key)
      ((app.pressOpenPath surroundings.environment typed key).run exchange).1 := by
  unfold pressOpenPath asksOpenPath? modeAfterOpenPath
  cases key with
  | enter =>
    dsimp only
    cases Text.trim typed.toList with
    | nil => exact ⟨rfl, rfl, rfl⟩
    | cons first rest =>
      exact .of_mode (becomes_openSource surroundings exchange { app with mode := .normal } _)
  | _ => exact ⟨rfl, rfl, rfl⟩

theorem becomes_pressConfirmUnload (index : Nat) (key : Key) :
    app.Becomes
      (app.session.answered surroundings exchange
        (if key.confirms then some (.unload index) else none))
      (if key.confirms || key.refuses then .normal else .confirmUnload index)
      ((app.pressConfirmUnload surroundings.environment index key).run exchange).1 := by
  fun_cases App.pressConfirmUnload surroundings.environment app index key with
  | case1 | case2 | case3 =>
    exact .of_mode (becomes_unload surroundings exchange { app with mode := .normal } index)
  | case4 | case5 | case6 => exact ⟨rfl, rfl, rfl⟩
  | case7 =>
    have unconfirmed : key.confirms = false := by
      unfold Key.confirms
      split <;> first | rfl | (exfalso; simp_all)
    have unrefused : key.refuses = false := by
      unfold Key.refuses
      split <;> first | rfl | (exfalso; simp_all)
    rw [unconfirmed, unrefused]
    exact ⟨rfl, rfl, rfl⟩

/-- What a key asks of the session, and the mode after it. -/
theorem becomes_press (now : Nat) (key : Key) :
    app.Becomes (app.session.answered surroundings exchange (app.asks? now key))
      (app.modeAfter key) ((app.press surroundings.environment now key).run exchange).1 := by
  unfold press asks? modeAfter
  cases mode : app.mode with
  | normal => exact app.becomes_pressNormal surroundings exchange mode now key
  | openPath typed => exact app.becomes_pressOpenPath surroundings exchange typed key
  | pickUnload digits => exact app.becomes_pressPickUnload digits key
  | confirmUnload index => exact app.becomes_pressConfirmUnload surroundings exchange index key

/-- The clock asks for the step that is due, and no step that is not due changes anything. -/
theorem becomes_tick (free : app.session.pacer.stepping = false) (now : Nat) :
    app.Becomes (app.session.answered surroundings exchange (some (.tick now))) app.mode
      ((app.respond surroundings.environment (.tick now)).run exchange).1 := by
  have answered : app.session.answered surroundings exchange (some (.tick now)) =
      ((app.session.tick surroundings.environment now).run exchange).1.2 := rfl
  rw [answered]
  unfold respond tick
  rw [Recorded.run_bind, Recorded.run_bind, Session.run_tick _ _ _ free]
  cases app.session.pacer.takeTick? now with
  | none => exact ⟨rfl, rfl, rfl⟩
  | some pacer => exact app.becomes_reportStep _ _

/-- What an event asks of the session, and the mode after it. Only drawing changes which frame was
drawn last. -/
theorem respond_eq (free : app.session.pacer.stepping = false) (event : Event) :
    let after := ((app.respond surroundings.environment event).run exchange).1
    after.session = app.session.answered surroundings exchange (event.asks? app) ∧
      after.mode = event.modeAfter app ∧
      (after.drawnRevision = app.drawnRevision ∨ after.drawnRevision = after.session.revision) := by
  cases event with
  | press now key =>
    have becomes := app.becomes_press surroundings exchange now key
    exact ⟨becomes.session, becomes.mode, .inl becomes.drawn⟩
  | tick now =>
    have becomes := app.becomes_tick surroundings exchange free now
    exact ⟨becomes.session, becomes.mode, .inl becomes.drawn⟩
  | draw width height => exact ⟨rfl, rfl, .inr rfl⟩

end Run

end App

namespace Session

variable {σ : Type} [Engine σ] (surroundings : Surroundings) (exchange : Exchange)
  {session : Session σ}

/-- No answer leaves a step unfinished. -/
theorem stepping_answered (free : session.pacer.stepping = false)
    (operation? : Option Operation) :
    (session.answered surroundings exchange operation?).pacer.stepping = false := by
  cases operation? with
  | none => exact free
  | some operation => exact (effect_perform surroundings exchange session free operation).stepping

/-- Frames that were published stay counted. -/
theorem revision_le_answered (free : session.pacer.stepping = false)
    (operation? : Option Operation) :
    session.revision ≤ (session.answered surroundings exchange operation?).revision := by
  cases operation? with
  | none => exact Nat.le_refl _
  | some operation =>
    have effect := effect_perform surroundings exchange session free operation
    dsimp only [answered]
    generalize ((session.perform surroundings.environment operation).run exchange).1 = performed
      at effect ⊢
    cases effect with
    | quiet _ _ _ _ _ _ revision => exact Nat.le_of_eq revision.symm
    | shown changed _ _ _ _ _ revision seen =>
      rw [seen, ← revision]
      exact Nat.le_succ _

end Session

/-- How far a visit has come. -/
structure Visit (σ : Type) where
  app : App σ
  exchange : Exchange := {}

/-- The visit after one more event. -/
def Visit.next {σ : Type} [Engine σ] (surroundings : Surroundings) (visit : Visit σ)
    (event : App.Event) : Visit σ :=
  let responded := (visit.app.respond surroundings.environment event).run visit.exchange
  ⟨responded.1, responded.2⟩

namespace Surroundings

variable {σ : Type} [Engine σ] (surroundings : Surroundings) (interval : Nat)

/-- The visit in which sources are named at the start and then events happen. When the user gives up
on one of the sources the application ends, so that what is said of later events says more than is
needed. -/
def visit (paths : List String) (events : List App.Event) : Visit σ :=
  let opened := ((App.new interval : App σ).openAll surroundings.environment paths).run {}
  events.foldl (Visit.next surroundings) ⟨opened.1.2, opened.2⟩

/-- What holds of an application without sources, and is kept when a source is opened at the start,
holds after the start. By induction on the sources. -/
theorem openAll_induction {P : App σ → Prop}
    (opened : ∀ app exchange path, P app →
      P ((app.openSource surroundings.environment (Source.file path)).run exchange).1.2)
    {app : App σ} (begun : P app) (exchange : Exchange) (paths : List String) :
    P ((app.openAll surroundings.environment paths).run exchange).1.2 := by
  induction paths generalizing app exchange with
  | nil => exact begun
  | cons path rest ih =>
    have first := opened app exchange path begun
    rw [App.openAll, Recorded.run_bind]
    generalize (app.openSource surroundings.environment (Source.file path)).run exchange = result
      at first ⊢
    obtain ⟨⟨loaded, after⟩, left⟩ := result
    cases loaded with
    | false => exact first
    | true => exact ih first left

/-- What holds of a new application and is kept by sources that are opened at the start and by every
event holds throughout a visit. By induction on the events, along with the fact that no step is
being taken when something happens. -/
theorem visit_induction {P : App σ → Prop} (begun : P (App.new interval))
    (opened : ∀ app exchange path, app.session.pacer.stepping = false → P app →
      P ((app.openSource surroundings.environment (Source.file path)).run exchange).1.2)
    (responded : ∀ app exchange event, app.session.pacer.stepping = false → P app →
      P ((app.respond surroundings.environment event).run exchange).1)
    (paths : List String) (events : List App.Event) :
    P (surroundings.visit interval paths events).app ∧
      (surroundings.visit interval paths events : Visit σ).app.session.pacer.stepping = false := by
  unfold visit
  refine List.foldlRecOn (motive := fun visit : Visit σ => P visit.app ∧
    visit.app.session.pacer.stepping = false) events _ ?_ fun visit held event _ => ?_
  · refine surroundings.openAll_induction (P := fun app => P app ∧
      app.session.pacer.stepping = false) ?_ ⟨begun, rfl⟩ {} paths
    intro app exchange path held
    have becomes := app.becomes_openSource surroundings exchange (Source.file path)
    refine ⟨opened app exchange path held.2 held.1, ?_⟩
    rw [becomes.session]
    exact Session.stepping_answered surroundings exchange held.2 _
  · refine ⟨responded visit.app visit.exchange event held.2 held.1, ?_⟩
    have asked := (visit.app.respond_eq surroundings visit.exchange held.2 event).1
    rw [Visit.next, asked]
    exact Session.stepping_answered surroundings visit.exchange held.2 _

/-- No step is being taken when something happens. -/
theorem stepping_visit (paths : List String) (events : List App.Event) :
    (surroundings.visit interval paths events : Visit σ).app.session.pacer.stepping = false :=
  (surroundings.visit_induction interval (P := fun _ => True) trivial (fun _ _ _ _ _ => trivial)
    (fun _ _ _ _ _ => trivial) paths events).2

/-- The frame that was drawn last is one that was published. -/
theorem drawn_le_visit (paths : List String) (events : List App.Event) :
    let app : App σ := (surroundings.visit interval paths events).app
    app.drawnRevision ≤ app.session.revision := by
  refine (surroundings.visit_induction interval
    (P := fun app => app.drawnRevision ≤ app.session.revision) (Nat.le_refl _) ?_ ?_ paths events).1
  · intro app exchange path free held
    have becomes := app.becomes_openSource surroundings exchange (Source.file path)
    rw [becomes.session, becomes.drawn]
    exact Nat.le_trans held (Session.revision_le_answered surroundings exchange free _)
  · intro app exchange event free held
    obtain ⟨session, _, same | drawn⟩ := app.respond_eq surroundings exchange free event
    · rw [session, same]
      exact Nat.le_trans held (Session.revision_le_answered surroundings exchange free _)
    · exact Nat.le_of_eq drawn

end Surroundings

end UrclDebugger
