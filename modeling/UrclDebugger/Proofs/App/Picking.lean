import Mathlib.Data.List.InsertIdx
import UrclDebugger.Proofs.App.Typing

/-!
# Picking a source by its number

A source that is to be taken out is picked by its number in the dialog. The confirmation is asked
for the source with the typed number, it takes out this source and leaves the others in order, and a
source is taken out in no other way (`Surroundings.number_picks_source`).
-/

namespace UrclDebugger

section Unload

variable {σ : Type} [Engine σ] (surroundings : Surroundings) (exchange : Exchange)

/-- Reading a source again does not change its name. -/
theorem Surroundings.displayName_attempt (scope : σ) (source : Source) :
    (surroundings.attempt exchange scope source).source.displayName = source.displayName := by
  obtain ⟨name, path, text⟩ := source
  unfold attempt reading
  cases path with
  | none => rfl
  | some file =>
    dsimp only
    cases surroundings.fileText exchange.reads.length file <;> rfl

theorem Surroundings.displayName_attempts (scope : σ) (sources : List Source) :
    ((surroundings.attempts exchange scope sources).map Attempt.source).map Source.displayName =
      sources.map Source.displayName := by
  induction sources generalizing exchange scope with
  | nil => rfl
  | cons source rest ih =>
    rw [attempts, List.map_cons, List.map_cons, List.map_cons, ih, displayName_attempt]

/-- Taking out a source leaves the others in order, or nothing if the user gives up on one. -/
theorem Session.displayName_unload (session : Session σ) {index : Nat}
    (inside : index < session.sources.length) :
    let rebuilt := ((session.unload surroundings.environment index).run exchange).1
    rebuilt.1 = .completed ∧ rebuilt.2.sources.map Source.displayName =
        (session.sources.map Source.displayName).eraseIdx index ∨
      rebuilt.1 = .aborted ∧ rebuilt.2.sources = [] := by
  have survives : (Operation.unload index).survivors? session.sources =
      some (session.sources.eraseIdx index) := if_pos inside
  have performed := session.run_perform_of_survivors surroundings exchange survives
  rw [run_perform, Workspace.run_rebuild] at performed
  dsimp only at performed
  intro rebuilt
  have reply := congrArg (fun result => result.1.1) performed
  have left := congrArg (fun result => result.1.2.workspace) performed
  obtain ended := Reply.rebuilt.inj reply
  have names := surroundings.displayName_attempts exchange (Engine.fresh : σ)
    (session.sources.eraseIdx index)
  cases gaveUp : (surroundings.attempts exchange (Engine.fresh : σ)
      (session.sources.eraseIdx index)).findIdx? Attempt.aborts with
  | none =>
    rw [gaveUp] at ended left
    left
    refine ⟨ended, ?_⟩
    rw [List.eraseIdx_map, ← names]
    exact congrArg (fun workspace => workspace.sources.map Source.displayName) left
  | some abandoned =>
    rw [gaveUp] at ended left
    right
    exact ⟨ended, congrArg Workspace.sources left⟩

end Unload

namespace App

section Dialogs

variable {σ : Type} (app : App σ)

/-- The names of the loaded sources in menus. -/
def names : List String := app.session.sources.map Source.displayName

variable {app} {index : Nat} {name : String}

/-- The dialog that asks for a number shows each source with its number. -/
theorem numbered_pickUnload {digits : String} (asking : app.mode = .pickUnload digits)
    (named : app.names[index]? = some name) :
    (app.dialog?.bind fun dialog => dialog.body[index]?) =
      some (toString (index + 1) ++ "  " ++ name) := by
  obtain ⟨inside, same⟩ := List.getElem?_eq_some_iff.mp named
  have numbered : ((List.range' 1 app.names.length).zip app.names)[index]? =
      some (index + 1, name) := by
    refine List.getElem?_zip_eq_some.mpr ⟨?_, named⟩
    rw [List.getElem?_range' inside, Nat.one_mul, Nat.add_comm]
  unfold dialog?
  rw [asking]
  change (List.map _ ((List.range' 1 app.names.length).zip app.names) ++ _)[index]? = _
  rw [List.getElem?_append_left (by simpa using inside), List.getElem?_map, numbered]
  rfl

/-- The dialog that waits for a confirmation names the source. -/
theorem named_confirmUnload (waiting : app.mode = .confirmUnload index)
    (named : app.names[index]? = some name) :
    app.dialog?.map View.Dialog.body =
      some ["Unload " ++ name ++ " and rebuild from the remaining modules?"] := by
  unfold dialog?
  rw [waiting]
  change some ["Unload " ++ (app.names[index]?).getD "?" ++ _] = _
  rw [named]
  rfl

end Dialogs

/-- Only a confirmation asks to take a source out, and only the one that it was asked for. -/
theorem asks_unload_iff {σ : Type} {app : App σ} {event : Event} {index : Nat} :
    event.asks? app = some (.unload index) ↔ ∃ now key,
      event = .press now key ∧ key.confirms = true ∧ app.mode = .confirmUnload index := by
  constructor
  · intro asks
    cases event with
    | tick now => cases asks
    | draw width height => cases asks
    | press now key =>
      refine ⟨now, key, rfl, ?_⟩
      change app.asks? now key = _ at asks
      unfold asks? at asks
      cases mode : app.mode with
      | normal =>
        rw [mode] at asks
        dsimp only at asks
        unfold asksNormal? ifSources at asks
        split at asks <;> first | contradiction | (split at asks <;> cases asks)
      | openPath typed =>
        rw [mode] at asks
        dsimp only at asks
        unfold asksOpenPath? at asks
        split at asks <;> first | contradiction | (split at asks <;> cases asks)
      | pickUnload digits =>
        rw [mode] at asks
        contradiction
      | confirmUnload waiting =>
        rw [mode] at asks
        dsimp only at asks
        split at asks
        · rename_i confirms
          obtain rfl := Operation.unload.inj (Option.some.inj asks)
          exact ⟨confirms, rfl⟩
        · contradiction
  · rintro ⟨now, key, rfl, confirms, waiting⟩
    show app.asks? now key = _
    rw [asks?, waiting]
    exact if_pos confirms

/-- What comes of digits that were typed to pick one of a number of sources: the mode after they
were typed, and the one after they were entered. -/
structure Picked (count : Nat) (digits : List Char) (typed entered : Mode) : Prop where
  decides : count < 10 → ∀ index,
    typed = .confirmUnload index ↔ FirstPicks count digits index
  stays : count < 10 → (∀ index, ¬ FirstPicks count digits index) → typed = .pickUnload ""
  keeps : 10 ≤ count → typed = .pickUnload (String.ofList digits)
  finds : 10 ≤ count → ∀ index, entered = .confirmUnload index ↔ Picks count digits index
  clears : 10 ≤ count → (∀ index, ¬ Picks count digits index) → entered = .pickUnload ""

end App

/-- Every confirmation takes out the source at an index, which has the name that the dialog shows,
and leaves the others in order, or nothing if the user gives up on one of them. -/
structure Visit.Confirms {σ : Type} [Engine σ] (surroundings : Surroundings) (visit : Visit σ)
    (index : Nat) (name : String) : Prop where
  named : visit.app.names[index]? = some name
  shown : visit.app.dialog?.map View.Dialog.body =
    some ["Unload " ++ name ++ " and rebuild from the remaining modules?"]
  calls : ∀ now key, key.confirms = true →
    visit.app.press surroundings.environment now key =
      { visit.app with mode := .normal }.unload surroundings.environment index
  leaves : ∀ now key, key.confirms = true →
    let rebuilt := ((visit.app.session.unload surroundings.environment index).run visit.exchange).1
    let after := (visit.next surroundings (.press now key)).app
    after.session = rebuilt.2 ∧
      (rebuilt.1 = .completed ∧ after.names = visit.app.names.eraseIdx index ∨
        rebuilt.1 = .aborted ∧ after.names = [])

section Visits

variable {σ : Type} [Engine σ] (surroundings : Surroundings) {visit : Visit σ}

/-- Digits that are typed after asking to take out one of several sources pick one of them. -/
theorem Visit.Stands.picked {sources : List Source} (stands : visit.Stands sources .normal)
    (choice : 2 ≤ sources.length) {digits : List Char} (decimal : ∀ c ∈ digits, c.isDigit = true)
    {typing : List App.Event} (types : App.Types ('u' :: digits) typing) (now : Nat) :
    let typed := typing.foldl (Visit.next surroundings) visit
    typed.app.session.sources = sources ∧ App.Picked sources.length digits typed.app.mode
      (typed.next surroundings (.press now .enter)).app.mode := by
  obtain ⟨idle, asked, control, later, rfl, quiet, remaining⟩ := types.uncons
  intro typed
  have standing : typed.Stands sources
      (digits.foldl (Mode.typed sources.length) (.pickUnload "")) := by
    have opened := (stands.foldl_idle surroundings quiet).next_ask surroundings choice asked control
    have finished := opened.foldl_digits surroundings trivial decimal remaining
    rw [← List.foldl_cons, ← List.foldl_append] at finished
    exact finished
  have kept (many : 10 ≤ sources.length) :
      typed.Stands sources (.pickUnload (String.ofList digits)) :=
    App.foldl_typed_of_many many "" ▸ standing
  refine ⟨standing.sources, ?_, ?_, fun many => (kept many).mode, ?_, ?_⟩
  · intro few index
    rw [standing.mode]
    exact App.foldl_typed_eq_confirmUnload_iff few decimal index
  · intro few idle
    rw [standing.mode]
    exact App.foldl_typed_of_idle few idle decimal
  · intro many index
    rw [((kept many).next_enter surroundings now).mode, ← App.sourceIndex?_eq_some_iff decimal]
    cases App.sourceIndex? (String.ofList digits) sources.length with
    | none => exact ⟨nofun, nofun⟩
    | some found => rw [Mode.confirmUnload.injEq, Option.some.injEq]
  · intro many none
    rw [((kept many).next_enter surroundings now).mode,
      (App.sourceIndex?_eq_none_iff decimal).mpr none]

/-- Every source is picked by some keys. -/
theorem Visit.Stands.exists_keys {sources : List Source} (stands : visit.Stands sources .normal)
    (choice : 2 ≤ sources.length) {index : Nat} (inside : index < sources.length) :
    ∃ keys : List Key, ((keys.map (.press 0)).foldl (Visit.next surroundings) visit).app.mode =
      .confirmUnload index := by
  let digits := Nat.toDigits 10 (index + 1)
  let typing : List App.Event := ('u' :: digits).map fun c => .press 0 (.char c false)
  have decimal : ∀ c ∈ digits, c.isDigit = true := fun _ => isDigit_of_mem_toDigits
  obtain ⟨-, picked⟩ := stands.picked surroundings choice decimal
    (App.types_map_press 0 ('u' :: digits)) 0
  let keys : List Key := ('u' :: digits).map fun c => .char c false
  have pressed : keys.map (.press 0) = typing := List.map_map
  by_cases few : sources.length < 10
  · refine ⟨keys, ?_⟩
    rw [pressed]
    refine (picked.decides few index).mpr ?_
    have single : digits = [Nat.digitChar (index + 1)] := Nat.toDigits_of_lt_base (by omega)
    have picks := App.picks_toDigits inside
    rw [show Nat.toDigits 10 (index + 1) = _ from single] at picks
    rw [single]
    exact .here picks
  · refine ⟨keys ++ [.enter], ?_⟩
    rw [List.map_append, pressed, List.foldl_append]
    exact (picked.finds (Nat.not_lt.mp few) index).mpr (App.picks_toDigits inside)

/-- What is confirmed is the source that the dialog names. -/
theorem Visit.exists_confirms {index : Nat} (free : visit.app.session.pacer.stepping = false)
    (waiting : visit.app.mode = .confirmUnload index)
    (inside : index < visit.app.session.sources.length) :
    ∃ name, visit.Confirms surroundings index name := by
  have listed : index < visit.app.names.length := by simpa [App.names] using inside
  have named := List.getElem?_eq_getElem listed
  refine ⟨visit.app.names[index], named, App.named_confirmUnload waiting named,
    fun now key confirms => App.press_of_confirms _ waiting confirms now, ?_⟩
  intro now key confirms rebuilt after
  have unloads := Session.displayName_unload surroundings visit.exchange visit.app.session inside
  have session := (visit.app.respond_eq surroundings visit.exchange free (.press now key)).1
  rw [App.asks_unload_iff.mpr ⟨now, key, rfl, confirms, waiting⟩, Session.answered_some,
    Session.run_perform] at session
  have left : after.session = rebuilt.2 := session
  refine ⟨left, ?_⟩
  unfold App.names
  rw [left]
  rcases unloads with ⟨completed, names⟩ | ⟨aborted, none⟩
  · exact .inl ⟨completed, names⟩
  · exact .inr ⟨aborted, congrArg (List.map Source.displayName) none⟩

end Visits

namespace Surroundings

variable {σ : Type} [Engine σ] (surroundings : Surroundings) (interval : Nat)

theorem visit_append (paths : List String) (events later : List App.Event) :
    (surroundings.visit interval paths (events ++ later) : Visit σ) =
      later.foldl (Visit.next surroundings) (surroundings.visit interval paths events) := by
  unfold visit
  exact List.foldl_append

/-- The source that is picked by its number is the one that is taken out. When a visit has come to
normal mode with two sources or more, digits that are typed after asking leave the sources alone.
With fewer than ten sources the first digit that is a number of one asks for the confirmation, and
if there is none the picker stays open and empty; with more of them entering the digits does, if
they are a numeral of such a number, and clears the input otherwise. So there are keys that pick
each of the sources. The dialog shows every source with its number; the confirmation takes out the
source that it names, and the others are left in order. No event takes a source out in another
way. -/
theorem number_picks_source (paths : List String) (events : List App.Event) :
    let visit : Visit σ := surroundings.visit interval paths events
    let app := visit.app
    let count := app.session.sources.length
    let after (later : List App.Event) : App σ :=
      (surroundings.visit interval paths (events ++ later)).app
    (app.mode = .normal → 2 ≤ count →
      (∀ digits typing now, (∀ c ∈ digits, c.isDigit = true) → App.Types ('u' :: digits) typing →
        (after typing).session.sources = app.session.sources ∧
        App.Picked count digits (after typing).mode
          (after (typing ++ [.press now .enter])).mode) ∧
      ∀ index < count, ∃ keys : List Key,
        (after (keys.map (.press 0))).mode = .confirmUnload index) ∧
    (∀ digits index name, app.mode = .pickUnload digits → app.names[index]? = some name →
      (app.dialog?.bind fun dialog => dialog.body[index]?) =
        some (toString (index + 1) ++ "  " ++ name)) ∧
    (∀ index, app.mode = .confirmUnload index → ∃ name, visit.Confirms surroundings index name) ∧
    ∀ event,
      (after [event]).session =
        app.session.answered surroundings visit.exchange (event.asks? app) ∧
      ∀ index, event.asks? app = some (.unload index) ↔ ∃ now key,
        event = .press now key ∧ key.confirms = true ∧ app.mode = .confirmUnload index := by
  intro visit app count after
  have free := surroundings.stepping_visit (σ := σ) interval paths events
  have fits := (surroundings.fits_visit (σ := σ) interval paths events).1
  have appended (later : List App.Event) :
      after later = (later.foldl (Visit.next surroundings) visit).app :=
    congrArg Visit.app (surroundings.visit_append interval paths events later)
  refine ⟨fun normal choice => ?_, ?_, ?_, fun event => ⟨?_, fun index => App.asks_unload_iff⟩⟩
  · have stands : visit.Stands app.session.sources .normal := ⟨free, rfl, normal⟩
    refine ⟨fun digits typing now decimal types => ?_, fun index inside => ?_⟩
    · rw [appended, appended, List.foldl_append]
      exact stands.picked surroundings choice decimal types now
    · simp only [appended]
      exact stands.exists_keys surroundings choice inside
  · exact fun digits index name asking named => App.numbered_pickUnload asking named
  · intro index waiting
    change app.mode.Fits _ at fits
    rw [waiting] at fits
    exact Visit.exists_confirms surroundings free waiting fits
  · rw [appended]
    exact (app.respond_eq surroundings visit.exchange free event).1

/-- Two sources are loaded, the second is picked among them, and its confirmation is waited for. -/
theorem number_picks_source_second :
    let reading : Surroundings := ⟨fun _ _ => .ok countingSource.text, fun _ _ _ => .keep⟩
    let paths := ["count.urcl", "again.urcl"]
    let typing : List App.Event := [.press 0 (.char 'u' false), .tick 1, .press 2 (.char '2' false)]
    let before : App Scope := (reading.visit 100 paths []).app
    let visit : Visit Scope := reading.visit 100 paths typing
    before.mode = .normal ∧ before.session.sources.length = 2 ∧
      App.Types ['u', '2'] typing ∧ visit.app.mode = .confirmUnload 1 ∧
      visit.Confirms reading 1 "again.urcl" := by
  intro reading paths typing before visit
  have normal : before.mode = .normal := by decide +kernel
  have two : before.session.sources.length = 2 := by decide +kernel
  have types : App.Types ['u', '2'] typing := rfl
  have picked := (((number_picks_source (σ := Scope) reading 100 paths []).1 normal
    (Nat.le_of_eq two.symm)).1 ['2'] typing 3
      (List.forall_mem_singleton.mpr rfl) types).2
  have waiting : visit.app.mode = .confirmUnload 1 := by
    refine (picked.decides (by rw [two]; decide) 1).mpr (.here ?_)
    rw [two]
    exact App.picks_toDigits (Nat.lt_succ_self 1)
  obtain ⟨name, confirms⟩ :=
    (number_picks_source (σ := Scope) reading 100 paths typing).2.2.1 1 waiting
  have named : visit.app.names[1]? = some "again.urcl" := by decide +kernel
  obtain rfl := Option.some.inj (named.symm.trans confirms.named)
  exact ⟨normal, two, types, waiting, confirms⟩

end Surroundings

end UrclDebugger
