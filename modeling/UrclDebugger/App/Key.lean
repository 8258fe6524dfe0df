/-!
# Keys
-/

namespace UrclDebugger

/-- A key that is pressed. -/
inductive Key where
  /-- A character, and whether the control key is held. -/
  | char (character : Char) (control : Bool)
  | enter
  | escape
  | backspace
  | tab
  | backTab
  | up
  | down
  | left
  | right
  | pageUp
  | pageDown
  | home
  deriving DecidableEq, Repr

end UrclDebugger
