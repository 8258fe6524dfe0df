import UrclDebugger.Path

/-!
# Sources

A source is one unit of program text that can be loaded: text kept in memory, or a file that is
read again whenever it is loaded. Its name decides by its extension how it is loaded.
-/

namespace UrclDebugger

/-- A unit of program text. -/
structure Source where
  /-- The name in messages; the path of a file. -/
  name : String
  /-- The file that holds the text, if there is one. -/
  path : Option String
  /-- The text; that of a file is the one read last. -/
  text : String
  deriving DecidableEq, Repr, Inhabited

namespace Source

/-- A source whose text is kept in memory. -/
def inline (name text : String) : Source := ⟨name, none, text⟩

/-- A source that is read from a file. -/
def file (path : String) : Source := ⟨path, some path, ""⟩

/-- The name in menus: the file name of a file, if it has one. -/
def displayName (source : Source) : String :=
  (source.path.bind Path.fileName?).getD source.name

/-- The extension of the name in lower case. -/
def extension? (source : Source) : Option String :=
  (Path.extension? source.name).map fun ending => String.ofList (ending.toList.map Char.toLower)

end Source

end UrclDebugger
