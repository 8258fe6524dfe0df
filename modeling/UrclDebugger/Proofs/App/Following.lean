import UrclDebugger.Proofs.App.Visit
import UrclDebugger.Proofs.View.Following
import UrclDebugger.Urcl

/-!
# Panes follow what a step has done

Every step publishes a frame, so the application draws a frame that it has not drawn before, and the
panes follow what is new in it: the program pane shows the instruction that runs next, the stack
pane the active cell, and the memory pane the last new or changed cell, wherever the user had
scrolled them to. Their windows move no further than they must
(`Surroundings.panes_follow_just_enough`).
-/

namespace UrclDebugger

namespace App

variable {σ : Type} (app : App σ) (width height : Nat)

/-- Whether the panes follow what is new: the frame was not drawn before. -/
def follows : Bool := app.session.revision != app.drawnRevision

section Panes

variable (screen : Screen)

/-- The registers pane of an application, drawn over a screen. -/
def drawRegisters : Screen × Nat :=
  View.drawRegisters screen (ScreenLayout.ofSize width height).registers app.session.frame
    (app.focus = .registers) app.scroll.registers

/-- The stack pane of an application, drawn over a screen. -/
def drawStack : Screen × Nat :=
  View.drawStack screen (ScreenLayout.ofSize width height).stack app.session.frame
    (app.focus = .stack) app.follows app.scroll.stack

/-- The program pane of an application, drawn over a screen. -/
def drawProgram : Screen × Nat :=
  View.drawProgram screen (ScreenLayout.ofSize width height).program app.session.frame
    (app.focus = .program) app.follows app.scroll.program

/-- The memory pane of an application, drawn over a screen. -/
def drawMemory : Screen × Nat :=
  View.drawMemory screen (ScreenLayout.ofSize width height).memory app.session.frame
    (app.focus = .memory) app.follows app.scroll.memory

end Panes

/-- An application is drawn pane by pane, and what the panes are scrolled to is kept. -/
theorem draw_eq [Engine σ] :
    app.draw width height =
      let layout := ScreenLayout.ofSize width height
      let registers := app.drawRegisters width height (View.drawModules
        (Screen.blank width height) layout.modules (app.session.sources.map Source.displayName))
      let stack := app.drawStack width height registers.1
      let program := app.drawProgram width height stack.1
      let memory := app.drawMemory width height program.1
      let drawn := View.drawStatus memory.1 layout.status app.status
      { app with
        screen := match app.dialog? with
          | some dialog => dialog.draw drawn
          | none => drawn
        scroll := ⟨registers.2, program.2, stack.2, memory.2⟩
        drawnRevision := app.session.revision } := rfl

/-- Drawing an application on a screen of the given size shows its scope as it is, and in each pane
that follows something the row that it follows. -/
structure FollowsNews [Engine σ] : Prop where
  fresh : app.session.frame.snapshot = Snapshot.extract app.session.scope
  /-- The instruction that runs next is shown, marked. -/
  program : ∀ listing index source, app.session.frame.snapshot.program = some listing →
    listing.pointer.toIndex? = some index → listing.instructions[index]? = some source →
    ∃ columns, Pane.ShowsRow (app.drawProgram width height)
      (ScreenLayout.ofSize width height).program (app.draw width height).scroll.program index
      (View.instructionRow columns index true source)
  /-- The active cell of the stack is shown, marked. -/
  stack : ∀ view index text, app.session.frame.snapshot.stack = some view →
    view.activeIndex.toIndex? = some index → view.cells[index]? = some text →
    Pane.ShowsRow (app.drawStack width height) (ScreenLayout.ofSize width height).stack
      (app.draw width height).scroll.stack index (View.stackRow index true text)
  /-- The last new or changed memory cell is shown. -/
  memory : ∀ index address text, app.session.frame.LastUpdated index address text →
    ∃ columns, Pane.ShowsRow (app.drawMemory width height)
      (ScreenLayout.ofSize width height).memory (app.draw width height).scroll.memory index
      (View.memoryPaneRow app.session.frame.delta columns (.cell address text))

section Draw

variable {app width height} [Engine σ]

/-- A frame that was not drawn before is followed. -/
theorem followsNews_of_follows (follows : app.follows = true)
    (fresh : app.session.frame.snapshot = Snapshot.extract app.session.scope) :
    app.FollowsNews width height where
  fresh := fresh
  program := by
    intro listing index source present pointed found
    obtain ⟨columns, moved, shows⟩ := View.showsRow_drawProgram
      (ScreenLayout.ofSize width height).program (app.focus = .program) app.scroll.program present
      pointed found
    refine ⟨columns, ?_⟩
    rw [draw_eq]
    unfold drawProgram
    rw [follows]
    exact shows.from_drawn _
  stack := by
    intro view index text present pointed found
    obtain ⟨moved, shows⟩ := View.showsRow_drawStack (ScreenLayout.ofSize width height).stack
      (app.focus = .stack) app.scroll.stack present pointed found
    rw [draw_eq]
    unfold drawStack
    rw [follows]
    exact shows.from_drawn _
  memory := by
    intro index address text last
    obtain ⟨columns, moved, shows⟩ := View.showsRow_drawMemory
      (ScreenLayout.ofSize width height).memory (app.focus = .memory) app.scroll.memory last
    refine ⟨columns, ?_⟩
    rw [draw_eq]
    unfold drawMemory
    rw [follows]
    exact shows.from_drawn _

/-- The frame that a step publishes is followed, as it is newer than every frame that was drawn. -/
theorem followsNews_reportStep (drawn : app.drawnRevision ≤ app.session.revision)
    (left : Session σ) (counted : left.revision = app.session.revision) (outcome : StepOutcome) :
    ({ app with session := left.showing (Snapshot.extract left.scope) }.reportStep
      outcome).FollowsNews width height := by
  have becomes := app.becomes_reportStep (left.showing (Snapshot.extract left.scope)) outcome
  refine followsNews_of_follows ?_ ?_
  · unfold follows
    rw [becomes.session, becomes.drawn, bne_iff_ne]
    show left.revision + 1 ≠ app.drawnRevision
    omega
  · rw [becomes.session]
    rfl

variable (surroundings : Surroundings) (exchange : Exchange)

/-- After a step the panes follow. -/
theorem followsNews_step (free : app.session.pacer.stepping = false)
    (drawn : app.drawnRevision ≤ app.session.revision) :
    (((app.step surroundings.environment).run exchange).1).FollowsNews width height := by
  unfold step
  rw [Recorded.run_bind, Session.run_step _ _ _ free]
  exact followsNews_reportStep drawn app.session.stepped.2 rfl _

/-- After a step that was due the panes follow. -/
theorem followsNews_tick (free : app.session.pacer.stepping = false)
    (drawn : app.drawnRevision ≤ app.session.revision) {now : Nat} {ticked : App σ}
    (due : ((app.tick surroundings.environment now).run exchange).1 = some ticked) :
    ticked.FollowsNews width height := by
  unfold tick at due
  rw [Recorded.run_bind, Session.run_tick _ _ _ free] at due
  cases taken : app.session.pacer.takeTick? now with
  | none =>
    rw [taken] at due
    contradiction
  | some pacer =>
    rw [taken] at due
    obtain rfl := Option.some.inj due
    let stepped := Session.stepped { app.session with pacer := pacer }
    exact followsNews_reportStep drawn stepped.2 rfl stepped.1

end Draw

end App

namespace Surroundings

/-- Panes follow just enough. A pane with any rows and of any height, scrolled to any offset, that
follows one of its rows or none, moves its window just as far as it must. Whatever has happened
since the application began, drawing it after a step shows the scope as the step has left it, with
the instruction that runs next, the active cell of the stack and the last new or changed memory cell
in their panes; this holds for a step that the user asks for as well as for one that is due. -/
theorem panes_follow_just_enough {α σ : Type} [Engine σ] (rows : List α)
    (paneHeight offset : Nat) {followed : Option Nat}
    (inside : ∀ row ∈ followed, row < rows.length) :
    Scroll.JustEnough rows paneHeight offset followed ∧
    ∀ (surroundings : Surroundings) (interval : Nat) (paths : List String)
      (events : List App.Event) (width height : Nat),
      let visit : Visit σ := surroundings.visit interval paths events
      (((visit.app.step surroundings.environment).run visit.exchange).1).FollowsNews width height ∧
      ∀ now ticked,
        ((visit.app.tick surroundings.environment now).run visit.exchange).1 = some ticked →
        ticked.FollowsNews width height := by
  refine ⟨Scroll.justEnough rows paneHeight offset inside, ?_⟩
  intro surroundings interval paths events width height visit
  have free := surroundings.stepping_visit (σ := σ) interval paths events
  have drawn := surroundings.drawn_le_visit (σ := σ) interval paths events
  exact ⟨App.followsNews_step surroundings visit.exchange free drawn,
    fun now ticked due => App.followsNews_tick surroundings visit.exchange free drawn due⟩

/-- Among twenty rows a pane with room for five that shows the first one moves to the sixth to show
the tenth, and the panes follow the first step of a program that was loaded at the start. -/
theorem panes_follow_just_enough_tenth :
    let reading : Surroundings := ⟨fun _ _ => .ok countingSource.text, fun _ _ _ => .keep⟩
    let visit : Visit Scope := reading.visit 100 ["count.urcl"] []
    (∀ row ∈ some 9, row < (List.range 20).length) ∧ Scroll.adjust 20 7 0 (some 9) = 5 ∧
      Scroll.JustEnough (List.range 20) 7 0 (some 9) ∧ visit.app.session.sources.length = 1 ∧
      (((visit.app.step reading.environment).run visit.exchange).1).FollowsNews 80 24 := by
  intro reading visit
  have inside : ∀ row ∈ some 9, row < (List.range 20).length := by decide
  have loaded : visit.app.session.sources.length = 1 := by decide +kernel
  obtain ⟨enough, follows⟩ := panes_follow_just_enough (σ := Scope) (List.range 20) 7 0 inside
  exact ⟨inside, rfl, enough, loaded, (follows reading 100 ["count.urcl"] [] 80 24).1⟩

end Surroundings

end UrclDebugger
