import UrclDebugger.Session.Workspace

/-!
# Surroundings of a session

What a session finds outside itself can be anything: a file may hold another text whenever it is
read, and the user may answer every question differently. Surroundings are therefore two functions
of the number of files read and of questions asked before. What a session exchanges with them is
recorded in order; the log gives nothing back and is not recorded.

Loading a source in given surroundings comes to an `Attempt`, and so does each of several sources
that are loaded one after another as if nobody gave up. Where the user does give up, loading stops
at the first attempt that is abandoned (`Workspace.run_loadAll?`).
-/

namespace UrclDebugger

/-- What a session finds outside itself. -/
structure Surroundings where
  /-- What reading a file gives, by the number of files read before. -/
  fileText : Nat → String → Except FileError String
  /-- What the user decides, by the number of questions asked before. -/
  answer : Nat → Source → LoadError → Decision

/-- What a session has asked its surroundings for. -/
structure Exchange where
  /-- The files that were read, in order. -/
  reads : List String := []
  /-- The sources that the user was asked about, in order, with what was wrong with them. -/
  questions : List (Source × LoadError) := []

/-- A computation that talks to its surroundings, with the record of it. -/
abbrev Recorded : Type → Type := StateM Exchange

namespace Recorded

variable {α β : Type}

theorem run_pure (result : α) (exchange : Exchange) :
    (pure result : Recorded α).run exchange = (result, exchange) := rfl

theorem run_bind (first : Recorded α) (rest : α → Recorded β) (exchange : Exchange) :
    (first >>= rest).run exchange = (rest (first.run exchange).1).run (first.run exchange).2 := rfl

end Recorded

/-- What reading a source and loading it into a scope comes to. -/
structure Attempt (σ : Type) where
  /-- The source as it was read. -/
  source : Source
  /-- The scope with every binding that was made. -/
  scope : σ
  /-- Why the source is not loaded completely, and what the user decides about it. -/
  trouble : Option (LoadError × Decision)

namespace Attempt

variable {σ : Type}

/-- What the user is asked about the source, if anything. -/
def question? (tried : Attempt σ) : Option (Source × LoadError) :=
  tried.trouble.map fun trouble => (tried.source, trouble.1)

/-- Whether the user gives up on the source. -/
def aborts (tried : Attempt σ) : Bool :=
  tried.trouble.any fun trouble => trouble.2 = .abort

/-- The scope after attempts that were made one after another. -/
def scopeAfter (scope : σ) (attempts : List (Attempt σ)) : σ :=
  attempts.foldl (fun _ tried => tried.scope) scope

end Attempt

/-- The record after attempts to load sources: the files of all sources that have one were read, and
the user was asked about every source that was not loaded completely. -/
def Exchange.extend {σ : Type} (exchange : Exchange) (sources : List Source)
    (attempts : List (Attempt σ)) : Exchange where
  reads := exchange.reads ++ sources.filterMap Source.path
  questions := exchange.questions ++ attempts.filterMap Attempt.question?

namespace Exchange

variable {σ : Type} (exchange : Exchange)

@[simp] theorem extend_nil : exchange.extend [] ([] : List (Attempt σ)) = exchange := by
  simp [extend]

theorem extend_extend (first second : List Source) (one other : List (Attempt σ)) :
    (exchange.extend first one).extend second other =
      exchange.extend (first ++ second) (one ++ other) := by
  simp [extend]

end Exchange

namespace Surroundings

variable {σ : Type} [Engine σ] (surroundings : Surroundings)

/-- The surroundings as an environment that keeps a record. -/
def environment : Environment Recorded where
  fileText path := fun exchange =>
    (surroundings.fileText exchange.reads.length path,
      { exchange with reads := exchange.reads ++ [path] })
  ask source error := fun exchange =>
    (surroundings.answer exchange.questions.length source error,
      { exchange with questions := exchange.questions ++ [(source, error)] })
  log _ := return

/-- The source as it is read now, or why it can not be read. -/
def reading (exchange : Exchange) (source : Source) : Except LoadError Source :=
  match source.path with
  | none => .ok source
  | some path =>
    match surroundings.fileText exchange.reads.length path with
    | .ok text => .ok { source with text := text }
    | .error error => .error (.unreadable path error)

/-- What loading a source into a scope comes to. -/
def attempt (exchange : Exchange) (scope : σ) (source : Source) : Attempt σ :=
  let decision (source : Source) (error : LoadError) : LoadError × Decision :=
    (error, surroundings.answer exchange.questions.length source error)
  match surroundings.reading exchange source with
  | .error error => ⟨source, scope, some (decision source error)⟩
  | .ok source =>
    let loading := Engine.load scope source
    ⟨source, loading.scope, loading.failure.map (decision source)⟩

/-- What loading sources one after another comes to, as if nobody gave up on any of them. -/
def attempts (exchange : Exchange) (scope : σ) : List Source → List (Attempt σ)
  | [] => []
  | source :: rest =>
    let tried := surroundings.attempt exchange scope source
    tried :: attempts (exchange.extend [source] [tried]) tried.scope rest

/-- What is decided about a source is the answer to the next question. -/
theorem answer_of_trouble (exchange : Exchange) (scope : σ) (source : Source) (error : LoadError)
    (decision : Decision)
    (trouble : (surroundings.attempt exchange scope source).trouble = some (error, decision)) :
    decision = surroundings.answer exchange.questions.length
      (surroundings.attempt exchange scope source).source error := by
  unfold attempt at trouble ⊢
  cases read : surroundings.reading exchange source with
  | error unread =>
    simp only [read, Option.some.injEq, Prod.mk.injEq] at trouble ⊢
    rw [← trouble.2, trouble.1]
  | ok source =>
    simp only [read, Option.map_eq_some_iff, Prod.mk.injEq] at trouble ⊢
    obtain ⟨failure, _, rfl, rfl⟩ := trouble
    rfl

@[simp] theorem run_log (record : Log.Record) (exchange : Exchange) :
    (surroundings.environment.log record).run exchange = ((), exchange) := rfl

@[simp] theorem run_logAll (records : List Log.Record) (exchange : Exchange) :
    (surroundings.environment.logAll records).run exchange = ((), exchange) := by
  induction records with
  | nil => rfl
  | cons record rest ih => exact ih

end Surroundings

namespace Workspace

variable {σ : Type} [Engine σ] (surroundings : Surroundings)

theorem run_refresh (source : Source) (exchange : Exchange) :
    (refresh surroundings.environment source).run exchange =
      (surroundings.reading exchange source,
        { exchange with reads := exchange.reads ++ source.path.toList }) := by
  unfold refresh Surroundings.reading
  cases source.path with
  | none =>
    rw [Option.toList_none, List.append_nil]
    rfl
  | some path =>
    rw [Recorded.run_bind]
    simp only [Surroundings.environment, StateT.run]
    cases surroundings.fileText exchange.reads.length path <;> rfl

/-- Reading and loading a source is an attempt as far as it goes without the user. -/
theorem run_loadInto (scope : σ) (source : Source) (exchange : Exchange) :
    (loadInto surroundings.environment scope source).run exchange =
      let tried := surroundings.attempt exchange scope source
      ((tried.source, tried.scope, tried.trouble.map Prod.fst),
        { exchange with reads := exchange.reads ++ source.path.toList }) := by
  unfold loadInto Surroundings.attempt
  rw [Recorded.run_bind, run_refresh]
  cases surroundings.reading exchange source with
  | error error => rfl
  | ok source =>
    simp only [Recorded.run_bind, Surroundings.run_logAll, Recorded.run_pure]
    cases (Engine.load scope source).failure <;> rfl

/-- Adding a source is one attempt: the source joins the workspace unless the user gives up. -/
theorem run_load? (workspace : Workspace σ) (source : Source) (exchange : Exchange) :
    (workspace.load? surroundings.environment source).run exchange =
      let tried := surroundings.attempt exchange workspace.scope source
      (if tried.aborts then none else some ⟨workspace.sources ++ [tried.source], tried.scope⟩,
        exchange.extend [source] [tried]) := by
  have decided := surroundings.answer_of_trouble exchange workspace.scope source
  unfold load?
  rw [Recorded.run_bind, run_loadInto]
  generalize surroundings.attempt exchange workspace.scope source = tried at decided ⊢
  have files : [source].filterMap Source.path = source.path.toList := by
    cases path : source.path <;> simp [path]
  obtain ⟨read, scope, _ | ⟨error, decision⟩⟩ := tried
  · have unasked : exchange.extend [source] [⟨read, scope, none⟩] =
        { exchange with reads := exchange.reads ++ source.path.toList } := by
      simp [Exchange.extend, files, Attempt.question?]
    dsimp only
    rw [unasked]
    rfl
  · have asked : decision = surroundings.answer exchange.questions.length read error :=
      decided error decision rfl
    have answered : (surroundings.environment.ask read error).run
        { exchange with reads := exchange.reads ++ source.path.toList } =
        (decision, exchange.extend [source] [⟨read, scope, some (error, decision)⟩]) := by
      rw [asked]
      simp only [Exchange.extend, files]
      rfl
    simp only [Option.map_some, Recorded.run_bind, Surroundings.run_log, answered]
    cases decision <;> rfl

/-- Adding sources one after another goes on up to the first one that the user gives up on; no later
one is read or asked about. By induction on the sources: the record of each attempt is carried over
to the next one. -/
theorem run_loadAll? (workspace : Workspace σ) (sources : List Source) (exchange : Exchange) :
    (workspace.loadAll? surroundings.environment sources).run exchange =
      let attempts := surroundings.attempts exchange workspace.scope sources
      match attempts.findIdx? Attempt.aborts with
      | none =>
        (some ⟨workspace.sources ++ attempts.map Attempt.source,
            Attempt.scopeAfter workspace.scope attempts⟩,
          exchange.extend sources attempts)
      | some index =>
        (none, exchange.extend (sources.take (index + 1)) (attempts.take (index + 1))) := by
  induction sources generalizing workspace exchange with
  | nil =>
    rw [loadAll?, Surroundings.attempts, Recorded.run_pure]
    simp [Attempt.scopeAfter]
  | cons source rest ih =>
    rw [loadAll?, Recorded.run_bind, run_load?, Surroundings.attempts]
    generalize surroundings.attempt exchange workspace.scope source = tried
    cases gaveUp : tried.aborts with
    | true =>
      simp only [gaveUp, ↓reduceIte, Recorded.run_pure, List.findIdx?_cons]
      rfl
    | false =>
      simp only [gaveUp, Bool.false_eq_true, ↓reduceIte, ih, List.findIdx?_cons]
      generalize surroundings.attempts (exchange.extend [source] [tried]) tried.scope rest = later
      cases later.findIdx? Attempt.aborts with
      | none =>
        simp [Exchange.extend_extend, Attempt.scopeAfter]
      | some index => simp [Exchange.extend_extend]

/-- Building a workspace anew starts from nothing and ends with nothing if the user gives up. -/
theorem run_rebuild (sources : List Source) (exchange : Exchange) :
    (rebuild surroundings.environment sources : Recorded (Rebuild × Workspace σ)).run exchange =
      let attempts := surroundings.attempts exchange (Engine.fresh : σ) sources
      match attempts.findIdx? Attempt.aborts with
      | none =>
        ((.completed, ⟨attempts.map Attempt.source, Attempt.scopeAfter Engine.fresh attempts⟩),
          exchange.extend sources attempts)
      | some index =>
        ((.aborted, empty),
          exchange.extend (sources.take (index + 1)) (attempts.take (index + 1))) := by
  unfold rebuild
  rw [Recorded.run_bind, run_loadAll?]
  dsimp only [empty]
  cases (surroundings.attempts exchange (Engine.fresh : σ) sources).findIdx? Attempt.aborts with
  | none => rfl
  | some index => rfl

end Workspace

end UrclDebugger
