import UrclDebugger.Engine

/-!
# The surroundings of a session

A session reads files, asks the user what to do about a source that can not be loaded, and writes
to a log. It does all three through an environment, in whatever monad the surroundings live.
-/

namespace UrclDebugger

/-- What to do about a source that can not be loaded. -/
inductive Decision where
  /-- Keep the source in spite of the error. -/
  | keep
  /-- Give up the whole operation. -/
  | abort
  deriving DecidableEq, Repr

/-- What surrounds a session. -/
structure Environment (m : Type → Type) where
  /-- The text of a file. -/
  fileText : String → m (Except FileError String)
  /-- The user's decision about a source that can not be loaded. -/
  ask : Source → LoadError → m Decision
  /-- Writes a record to the log. -/
  log : Log.Record → m Unit

namespace Environment

variable {m : Type → Type} [Monad m]

/-- Writes records to the log, in order. -/
def logAll (env : Environment m) : List Log.Record → m Unit
  | [] => return
  | record :: rest => do
    env.log record
    env.logAll rest

end Environment

end UrclDebugger
