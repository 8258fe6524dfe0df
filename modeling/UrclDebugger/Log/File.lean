import UrclDebugger.Files

/-!
# Log files

Records at or above a level go to a file that is created if it is missing and added to otherwise.
-/

namespace UrclDebugger.Log

/-- A log file can not be opened. -/
structure OpenError where
  cause : FileError
  deriving DecidableEq

/-- The wording of the failure to open a log file. -/
def OpenError.message (error : OpenError) : String :=
  "could not open log file: " ++ error.cause.message

/-- A tree in which the log file at a path exists. -/
def openFile (tree : FileTree) (path : String) : Except OpenError FileTree :=
  (tree.append path ByteArray.empty).mapError OpenError.mk

/-- Whether a record is written to a log of the given level. -/
def Level.admits (limit : Level) (record : Record) : Bool :=
  record.level.rank ≤ limit.rank

/-- A record as a line of a log file: the level in capitals, filled up to five characters, and the
message. -/
def Record.line (record : Record) : String :=
  let name := record.level.name.toUpper
  String.ofList (List.replicate (5 - name.length) ' ') ++ name ++ " " ++ record.message

end UrclDebugger.Log
