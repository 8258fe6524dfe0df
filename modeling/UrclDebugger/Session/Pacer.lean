import UrclDebugger.Engine

/-!
# Pacing steps

A pacer decides when a step may be taken. One step is taken at a time. While a program runs by
itself a step is due one interval after the run was started or after the last step that was due;
time that has passed unused is not caught up. A halted or broken program ends the run.

Times are milliseconds after a fixed moment.
-/

namespace UrclDebugger

/-- What a program signals after a step. -/
structure Signals where
  /-- The halt flag is absent or anything but `false`. -/
  halted : Bool
  /-- The break flag is bound to anything but `false`. -/
  broke : Bool
  deriving DecidableEq, Repr, Inhabited

namespace Signals

/-- The signals in a scope. -/
def read {σ : Type} [Engine σ] (scope : σ) : Signals where
  halted :=
    match Engine.read scope Variable.haltFlag with
    | some (.bool false) => false
    | _ => true
  broke :=
    match Engine.read scope Variable.breakFlag with
    | none | some (.bool false) => false
    | some _ => true

/-- Whether a run ends on these signals. -/
def shouldStop (signals : Signals) : Bool := signals.halted || signals.broke

end Signals

/-- What the program is doing, as the user sees it. -/
inductive RunState where
  | idle
  /-- A step is being taken. -/
  | stepping
  /-- The program runs by itself. -/
  | running
  | halted
  deriving DecidableEq, Repr

/-- Decides when steps may be taken. -/
structure Pacer where
  /-- Milliseconds between the steps of a run. -/
  interval : Nat
  /-- Whether the program runs by itself. -/
  running : Bool := false
  /-- Whether a step is being taken. -/
  stepping : Bool := false
  /-- When the run was started or its last step was due. -/
  lastTick : Nat := 0
  deriving DecidableEq, Repr

namespace Pacer

/-- Milliseconds between the steps of a run unless told otherwise. -/
def defaultInterval : Nat := 100

/-- Starts a run. -/
def start (pacer : Pacer) (now : Nat) : Pacer :=
  { pacer with running := true, lastTick := now }

/-- Ends a run. -/
def stop (pacer : Pacer) : Pacer := { pacer with running := false }

/-- Begins a step, unless one is being taken. -/
def beginStep? (pacer : Pacer) : Option Pacer :=
  if pacer.stepping then none else some { pacer with stepping := true }

/-- Ends a step. -/
def endStep (pacer : Pacer) : Pacer := { pacer with stepping := false }

/-- Takes the step that is due, if one is. -/
def takeTick? (pacer : Pacer) (now : Nat) : Option Pacer :=
  if pacer.running && !pacer.stepping && pacer.interval ≤ now - pacer.lastTick then
    some { pacer with lastTick := now }
  else none

/-- Milliseconds until a step of the run is due. -/
def timeUntilTick? (pacer : Pacer) (now : Nat) : Option Nat :=
  if pacer.running then some (pacer.interval - (now - pacer.lastTick)) else none

/-- Whether the signals of a finished step end a run. -/
def endsRun (pacer : Pacer) (signals : Signals) : Bool :=
  pacer.running && signals.shouldStop

/-- Ends a run if the signals of a finished step do. -/
def afterStep (pacer : Pacer) (signals : Signals) : Pacer :=
  if pacer.endsRun signals then pacer.stop else pacer

/-- What the program is doing. -/
def state (pacer : Pacer) (halted : Bool) : RunState :=
  if pacer.stepping then .stepping
  else if pacer.running then .running
  else if halted then .halted
  else .idle

end Pacer

end UrclDebugger
