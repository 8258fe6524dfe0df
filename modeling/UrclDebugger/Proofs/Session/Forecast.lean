import UrclDebugger.Proofs.Session.Frame
import UrclDebugger.Proofs.Snapshot.Forecast

/-!
# The frame foretells the next step

In a session all of whose sources are programs, the scope is vacant or hosts the program that was
loaded last, however programs were loaded over each other, taken out, read anew and stepped. As the
frame is never stale, what it highlights is what the machine does next.
-/

namespace UrclDebugger

open Reference

/-- What the scope of loaded programs is: vacant, or the host of one of them. -/
inductive Workspace.Hosting (workspace : Workspace Scope) : Prop where
  | vacant (vacant : workspace.scope.Vacant)
  | program {source : Source} {program : Program} {older : Array (String × Nat)} {state : State}
      (loaded : source ∈ workspace.sources)
      (assembled : Program.assemble source.text = .ok program)
      (hosts : Hosts program older state workspace.scope)

/-- The sources of a workspace that are programs. -/
def Workspace.AllUrcl (workspace : Workspace Scope) : Prop :=
  ∀ source ∈ workspace.sources, source.extension? = some "urcl"

namespace Workspace.Hosting

variable {workspace : Workspace Scope}

/-- Another source in the list changes nothing. -/
theorem concat (hosting : workspace.Hosting) (source : Source) :
    Hosting ⟨workspace.sources ++ [source], workspace.scope⟩ := by
  cases hosting with
  | vacant vacant => exact .vacant vacant
  | program loaded assembled hosts =>
    exact .program (List.mem_append_left _ loaded) assembled hosts

/-- The label variables of a scope of programs are those of some label lines. -/
theorem exists_labels (hosting : workspace.Hosting) : ∃ older : Array (String × Nat), ∀ label,
    workspace.scope.get? (Operand.labelVariable label) =
      (Program.position? ⟨#[], older⟩ label).map .int := by
  cases hosting with
  | vacant vacant =>
    refine ⟨#[], fun label => ?_⟩
    have notFlag : Operand.labelVariable label ≠ Variable.stepFlag :=
      Operand.labelVariable_ne_of_mem_own (by decide) label
    exact vacant _ notFlag
  | @program source program older state loaded assembled hosts =>
    exact ⟨older ++ program.labels, hosts.labels⟩

/-- Loading a source that is a program hosts it, or changes nothing if it is not accepted. -/
theorem load (hosting : workspace.Hosting) {source : Source}
    (urcl : source.extension? = some "urcl") :
    Hosting ⟨workspace.sources ++ [source], (Engine.load workspace.scope source).scope⟩ := by
  cases assembled : Program.assemble source.text with
  | error error =>
    have unchanged : (Engine.load workspace.scope source).scope = workspace.scope := by
      show (Urcl.load workspace.scope source).scope = workspace.scope
      simp only [Urcl.load, urcl, assembled]
    rw [unchanged]
    exact hosting.concat source
  | ok program =>
    obtain ⟨older, known⟩ := hosting.exists_labels
    rw [Urcl.scope_load urcl assembled]
    exact .program (List.mem_append_right _ List.mem_cons_self) assembled (hosts_bind known)

/-- A step hosts what was hosted. -/
theorem step (hosting : workspace.Hosting) :
    Hosting { workspace with scope := (Engine.step workspace.scope).2 } := by
  cases hosting with
  | vacant vacant =>
    rw [vacant.step]
    exact .vacant (vacant.insert_stepFlag _)
  | program loaded assembled hosts =>
    obtain ⟨next, left⟩ := hosts.step (Program.accepted_of_assemble assembled)
    exact .program loaded assembled left

end Workspace.Hosting

/-- Every workspace of programs that a session comes to hosts one of them or nothing. By induction
on how it was come to; sources are never taken out without building the workspace anew. -/
theorem Workspace.Reachable.hosting {workspace : Workspace Scope} (reachable : workspace.Reachable)
    (urcl : workspace.AllUrcl) : workspace.Hosting := by
  induction reachable with
  | empty => exact .vacant Scope.vacant_empty
  | unread _ source ih =>
    have before := ih fun other listed => urcl other (List.mem_append_left _ listed)
    exact before.concat source
  | loaded _ source ih =>
    have before := ih fun other listed => urcl other (List.mem_append_left _ listed)
    exact before.load (urcl source (List.mem_append_right _ List.mem_cons_self))
  | stepped _ ih => exact (ih urcl).step

namespace Surroundings

variable (surroundings : Surroundings) (interval : Nat)

/-- After any operations that leave programs only, what the frame highlights is what the machine
does next: the highlighted instruction is attempted, the highlighted stack cell is popped and the
rows of the memory are what loads read. No text is longer than memory, so every position of a
program is a word. -/
theorem frame_foretells (operations : List Operation)
    (urcl : (surroundings.play interval operations : Progress Scope).session.workspace.AllUrcl)
    (fits : ∀ source ∈
      (surroundings.play interval operations : Progress Scope).session.workspace.sources,
      source.text.length < Word.positions) :
    let session := (surroundings.play interval operations : Progress Scope).session
    session.frame.snapshot.Foretells session.scope := by
  intro session
  have reachable : session.workspace.Reachable := surroundings.reachable_play interval operations
  have current : session.frame.snapshot = Snapshot.extract session.scope :=
    (surroundings.showsScope_play interval operations).snapshot
  rw [current]
  cases reachable.hosting urcl with
  | vacant vacant => exact Snapshot.foretells_of_vacant vacant
  | @program source program older state loaded assembled hosts =>
    have short : program.instructions.size < Word.positions :=
      Nat.lt_of_le_of_lt (Program.size_instructions_le_of_assemble assembled) (fits source loaded)
    exact Snapshot.foretells_of_hosts hosts (Program.accepted_of_assemble assembled) short

/-- Loading the counting program and one step leave that program only. -/
theorem sources_play_counting :
    (barren.play 100 [.load countingSource, .step] : Progress Scope).session.workspace.sources =
      [countingSource] := by
  decide +kernel

/-- The frame of the counting program after one step foretells the next. -/
theorem frame_foretells_counting : ∃ session : Session Scope,
    session = (barren.play 100 [.load countingSource, .step] : Progress Scope).session ∧
      session.workspace.AllUrcl ∧
      (∀ source ∈ session.workspace.sources, source.text.length < Word.positions) ∧
      session.frame.snapshot.Foretells session.scope := by
  have urcl : (barren.play 100 [.load countingSource, .step] :
      Progress Scope).session.workspace.AllUrcl := by
    unfold Workspace.AllUrcl
    rw [sources_play_counting]
    decide
  have fits : ∀ source ∈ (barren.play 100 [.load countingSource, .step] :
      Progress Scope).session.workspace.sources, source.text.length < Word.positions := by
    rw [sources_play_counting]
    decide
  exact ⟨_, rfl, urcl, fits, frame_foretells barren 100 [.load countingSource, .step] urcl fits⟩

end Surroundings

end UrclDebugger
