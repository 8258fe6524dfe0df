/-!
# Paths

A path is a text whose segments stand between slashes. Empty segments are none, and segments of one
dot mean nothing. The file name is the last segment, unless that is the way to the parent directory;
the extension is what follows the last dot of the file name, unless nothing stands before that dot.
-/

namespace UrclDebugger.Path

/-- The texts between slashes. -/
def pieces : List Char → List (List Char)
  | [] => [[]]
  | '/' :: rest => [] :: pieces rest
  | c :: rest =>
    match pieces rest with
    | [] => [[c]]
    | piece :: others => (c :: piece) :: others

/-- The segments, those of one dot among them. -/
def steps (path : String) : List String :=
  ((pieces path.toList).map String.ofList).filter (· ≠ "")

/-- The segments that mean something. -/
def segments (path : String) : List String := (steps path).filter (· ≠ ".")

/-- The last segment, if it names something. -/
def fileName? (path : String) : Option String :=
  (segments path).getLast?.filter (· ≠ "..")

/-- The text before the last dot and the text after it. -/
def splitLastDot : List Char → Option (List Char × List Char)
  | [] => none
  | c :: rest =>
    match splitLastDot rest with
    | some (before, after) => some (c :: before, after)
    | none => if c = '.' then some ([], rest) else none

/-- What follows the last dot of the file name. -/
def extension? (path : String) : Option String :=
  (fileName? path).bind fun name =>
    match splitLastDot name.toList with
    | some (_ :: _, after) => some (String.ofList after)
    | _ => none

end UrclDebugger.Path
