/-!
# Log records

What the debugger reports about itself: a level and a message.
-/

namespace UrclDebugger.Log

/-- The weight of a record, the gravest first. -/
inductive Level where
  | error | warn | info | debug | trace
  deriving DecidableEq, Repr

/-- The name of a level in lower case. -/
def Level.name : Level → String
  | .error => "error"
  | .warn => "warn"
  | .info => "info"
  | .debug => "debug"
  | .trace => "trace"

/-- The place of a level in the order of weights. -/
def Level.rank : Level → Nat
  | .error => 0
  | .warn => 1
  | .info => 2
  | .debug => 3
  | .trace => 4

/-- Every level. -/
def Level.all : List Level := [.error, .warn, .info, .debug, .trace]

/-- A record. -/
structure Record where
  level : Level
  message : String
  deriving DecidableEq, Repr

end UrclDebugger.Log
