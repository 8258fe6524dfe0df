import UrclDebugger.Engine

/-!
# File trees

A file tree is a directory with files and directories in it, as a value. A path is followed from
there one segment at a time; every segment but the last has to lead to a directory, and a dot stays
where it is. A path may lead out of the tree, to the directories that it lies in. Nothing else is
known to be in those.
-/

namespace UrclDebugger

/-- What a path can lead to. -/
inductive FileEntry where
  | file (bytes : ByteArray)
  | directory

/-- The files and directories below a root, by the segments that lead to them joined by slashes. -/
structure FileTree where
  entries : FiniteMap String FileEntry := ∅

namespace FileTree

instance : Inhabited FileTree := ⟨{}⟩

/-- A place that a path can lead to. -/
inductive Place where
  /-- The place that segments lead to from the root of the tree. -/
  | within (segments : List String)
  /-- A directory that the tree lies in. -/
  | above
  /-- A place in such a directory of which nothing is known. -/
  | outside
  deriving DecidableEq, Repr

/-- The directory that a place lies in. -/
def Place.parent : Place → Place
  | .within [] | .above => .above
  | .within segments => .within segments.dropLast
  | .outside => .outside

/-- The place of a name in a directory. -/
def Place.child (place : Place) (name : String) : Place :=
  match place with
  | .within segments => .within (segments ++ [name])
  | .above | .outside => .outside

/-- The place that a segment leads to. -/
def Place.next (place : Place) (segment : String) : Place :=
  if segment = "." then place else if segment = ".." then place.parent else place.child segment

/-- The key of the place that segments lead to. -/
def key (segments : List String) : String := "/".intercalate segments

/-- What is at a place. -/
def at? (tree : FileTree) : Place → Option FileEntry
  | .within [] => some .directory
  | .within segments => tree.entries.get? (key segments)
  | .above => some .directory
  | .outside => none

/-- The tree with an entry at a place. A place out of the tree has none. -/
def put (tree : FileTree) (place : Place) (entry : FileEntry) : Except FileError FileTree :=
  match place with
  | .within segments => .ok ⟨tree.entries.insert (key segments) entry⟩
  | .above | .outside => .error .notFound

/-- The most bytes that a segment may have. -/
def longestSegment : Nat := 255

/-- The most bytes that a path may have. -/
def longestPath : Nat := 4095

/-- The place that segments lead to from another one. What the last segment names does not have to
exist. -/
def follow (tree : FileTree) (place : Place) : List String → Except FileError Place
  | [] => .ok place
  | segment :: rest =>
    let next := place.next segment
    if longestSegment < segment.utf8ByteSize then .error .nameTooLong
    else if rest.isEmpty then .ok next
    else
      match tree.at? next with
      | none => .error .notFound
      | some (.file _) => .error .notDirectory
      | some .directory => tree.follow next rest

/-- The place that a path starts from: the root of the tree, or what is above all if it starts with
a slash. -/
def start (path : String) : Place := if path.startsWith "/" then .above else .within []

/-- What makes a path useless wherever it leads, if it is. -/
def defect? (path : String) : Option FileError :=
  if path.toList.contains '\x00' then some .nullInPath
  else if longestPath < path.utf8ByteSize then some .nameTooLong
  else if path.isEmpty then some .notFound
  else none

/-- The place that a path leads to. -/
def resolve (tree : FileTree) (path : String) : Except FileError Place :=
  match defect? path with
  | some error => .error error
  | none => tree.follow (start path) (Path.steps path)

/-- Whether a path ends in a slash, which says that it leads to a directory. -/
def namesDirectory (path : String) : Bool := path.endsWith "/"

/-- The bytes of a file. -/
def read (tree : FileTree) (path : String) : Except FileError ByteArray := do
  match tree.at? (← tree.resolve path) with
  | none => throw .notFound
  | some .directory => throw .isDirectory
  | some (.file bytes) => if namesDirectory path then throw .notDirectory else return bytes

/-- The text of a file. -/
def readText (tree : FileTree) (path : String) : Except FileError String := do
  match String.fromUTF8? (← tree.read path) with
  | some text => return text
  | none => throw .notText

/-- The place of a file that is there or can be made, and the bytes that it has if it is there. -/
def target (tree : FileTree) (path : String) : Except FileError (Place × Option ByteArray) := do
  let place ← tree.resolve path
  if namesDirectory path then throw .isDirectory
  match tree.at? place with
  | some .directory => throw .isDirectory
  | some (.file bytes) => return (place, some bytes)
  | none => return (place, none)

/-- The tree with a file written, whether it was there before or not. -/
def write (tree : FileTree) (path : String) (bytes : ByteArray) : Except FileError FileTree := do
  tree.put (← tree.target path).1 (.file bytes)

/-- The tree with bytes added at the end of a file, which is made if it is not there. -/
def append (tree : FileTree) (path : String) (bytes : ByteArray) : Except FileError FileTree := do
  let (place, present?) ← tree.target path
  tree.put place (.file (present?.getD ByteArray.empty ++ bytes))

/-- The tree with the directories that segments lead through from a place. -/
def makeAlong (tree : FileTree) (place : Place) : List String → Except FileError FileTree
  | [] => .ok tree
  | segment :: rest =>
    let next := place.next segment
    if longestSegment < segment.utf8ByteSize then .error .nameTooLong
    else
      match tree.at? next with
      | some .directory => tree.makeAlong next rest
      | some (.file _) => .error (if rest.isEmpty then .exists else .notDirectory)
      | none => do (← tree.put next .directory).makeAlong next rest

/-- The tree with a directory, and with those on the way to it. A path that ends in a dot speaks of
a directory that is there already. -/
def makeDirectory (tree : FileTree) (path : String) : Except FileError FileTree :=
  match defect? path with
  | some error => .error error
  | none => do
    let directories := Path.segments path
    if (Path.steps path).getLast? = some "." then
      let tree ← tree.makeAlong (start path) directories.dropLast
      match tree.at? (← tree.resolve path) with
      | some _ => return tree
      | none => throw .notFound
    else tree.makeAlong (start path) directories

/-- The entries that are neither the one at a place nor below it. -/
def without (tree : FileTree) (segments : List String) : FileTree :=
  ⟨FiniteMap.ofList (tree.entries.toList.filter fun (other, _) =>
    other ≠ key segments && !(key segments ++ "/").isPrefixOf other)⟩

/-- The tree without a file, or without a directory and all that is in it. -/
def remove (tree : FileTree) (path : String) : Except FileError FileTree := do
  let place ← tree.resolve path
  match tree.at? place, place with
  | some (.file _), .within segments =>
    if namesDirectory path then throw .notDirectory else return tree.without segments
  | some .directory, .within segments => return tree.without segments
  | _, _ => throw .notFound

end FileTree

end UrclDebugger
