import ClassBridge.Path

/-!
# File systems

**The value.**  A `FileSystem` is a value: files and directories by location, and a current
directory where relative paths start.  A location is the list of names that lead from the root.
`nodeAt?` is its only view.

**Paths.**  `resolve` walks along a path, so a path that leads through a file or through nothing
is refused with the error that the walk meets first.

**Operations.**  Each operation gives the new file system or an error, and an operation that fails
changes nothing.  Only `createDirectories` is made of several steps; what its first steps created
stays when a later one fails.

**Left out.**  A location is a file or a directory: there are no symbolic links, so two locations
never lead to one file.  Nodes have no owners and no permissions, and nobody else changes files
between two operations.
-/

namespace ClassBridge

/-- Why an operation on files is refused. -/
inductive FileError where
  | notFound
  | denied
  | busy
  | exists
  | notDirectory
  | isDirectory
  | nameTooLong
  | nulByte
  deriving DecidableEq, Repr

/-- The text of an error. -/
def FileError.message : FileError → String
  | .notFound => "No such file or directory (os error 2)"
  | .denied => "Permission denied (os error 13)"
  | .busy => "Device or resource busy (os error 16)"
  | .exists => "File exists (os error 17)"
  | .notDirectory => "Not a directory (os error 20)"
  | .isDirectory => "Is a directory (os error 21)"
  | .nameTooLong => "File name too long (os error 36)"
  | .nulByte => "file name contained an unexpected NUL byte"

/-- The names that lead from the root to a file or a directory. -/
abbrev Location : Type := List String

/-- What stands at a location. -/
inductive Node where
  | file (content : ByteArray)
  | directory

/-- Files are told apart by their contents. -/
instance : DecidableEq Node
  | .file a, .file b =>
    match ByteArray.instDecidableEq a b with
    | isTrue h => isTrue (congrArg Node.file h)
    | isFalse h => isFalse fun e => h (Node.file.inj e)
  | .directory, .directory => isTrue rfl
  | .file _, .directory => isFalse Node.noConfusion
  | .directory, .file _ => isFalse Node.noConfusion

/-- Files and directories. -/
structure FileSystem where
  /-- Where relative paths start. -/
  current : Location := []
  nodes : List (Location × Node) := []
  deriving DecidableEq

/-- Where a path leads: to a name in a directory, which may be free, or to a directory itself. -/
inductive Target where
  | entry (directory : Location) (name : String)
  | directory (location : Location)
  deriving DecidableEq

namespace FileSystem

/-- What stands at a location; the root is always a directory. -/
def nodeAt? (fs : FileSystem) (location : Location) : Option Node :=
  if location = [] then some .directory
  else (fs.nodes.find? fun entry => entry.1 == location).map (·.2)

/-- Puts a node at a location. -/
def put (fs : FileSystem) (location : Location) (node : Node) : FileSystem :=
  { fs with nodes := (location, node) :: fs.nodes.filter fun entry => entry.1 != location }

/-- Takes away what stands at a location and below it. -/
def removeTree (fs : FileSystem) (location : Location) : FileSystem :=
  { fs with nodes := fs.nodes.filter fun entry => !location.isPrefixOf entry.1 }

theorem nodeAt?_put (fs : FileSystem) (location other : Location) (node : Node)
    (h : location ≠ []) :
    (fs.put location node).nodeAt? other =
      if other = location then some node else fs.nodeAt? other := by
  by_cases ho : other = location
  · subst ho
    simp [nodeAt?, put, h]
  · have hne : (location == other) = false := by simpa using fun hh => ho hh.symm
    simp only [nodeAt?, put, ho, if_false, List.find?_cons, hne]
    split
    · rfl
    · congr 1
      rw [List.find?_filter]
      congr 1
      funext entry
      by_cases he : entry.1 = other
      · simp [he, ho]
      · simp [he]

theorem nodeAt?_removeTree (fs : FileSystem) (location other : Location) (h : other ≠ []) :
    (fs.removeTree location).nodeAt? other =
      if location <+: other then none else fs.nodeAt? other := by
  simp only [nodeAt?, removeTree, h, if_false, List.find?_filter]
  by_cases hp : location <+: other
  · rw [if_pos hp, Option.map_eq_none_iff, List.find?_eq_none]
    intro entry _
    by_cases he : entry.1 = other
    · simp [he, hp]
    · simp [he]
  · rw [if_neg hp]
    congr 2
    funext entry
    by_cases he : entry.1 = other
    · have : location.isPrefixOf other = false := by
        rw [Bool.eq_false_iff]
        exact fun hh => hp (List.isPrefixOf_iff_prefix.1 hh)
      simp [he, this]
    · simp [he]

/-- How many bytes a name may have. -/
def nameLimit : Nat := 255

/-- One step of a walk: into a directory of this name, or up. -/
def enter (fs : FileSystem) (location : Location) (step : String) : Except FileError Location :=
  if step = "." then .ok location
  else if step = ".." then .ok location.dropLast
  else if nameLimit < step.utf8ByteSize then .error .nameTooLong
  else match fs.nodeAt? (location ++ [step]) with
    | some .directory => .ok (location ++ [step])
    | some (.file _) => .error .notDirectory
    | none => .error .notFound

/-- The steps of a path: its names, and its dots. -/
def steps (path : String) : List String :=
  (Path.pieces path).filter (· != "")

/-- Whether a path ends with a slash, so that it can only mean a directory. -/
def isClosed (path : String) : Bool := path.toList.getLast? == some '/'

/-- How many bytes a path may have. -/
def pathLimit : Nat := 4095

/-- Where a path leads, however long its last name is. -/
def approach (fs : FileSystem) (path : String) : Except FileError Target :=
  if path = "" then .error .notFound
  else if path.toList.contains '\x00' then .error .nulByte
  else if pathLimit < path.utf8ByteSize then .error .nameTooLong
  else
    let start := if Path.isAbsolute path then [] else fs.current
    match (steps path).getLast? with
    | none => .ok (.directory start)
    | some last => do
      let directory ← (steps path).dropLast.foldlM fs.enter start
      if last = "." then .ok (.directory directory)
      else if last = ".." then .ok (.directory directory.dropLast)
      else .ok (.entry directory last)

/-- Where a path leads. -/
def resolve (fs : FileSystem) (path : String) : Except FileError Target := do
  match ← fs.approach path with
  | .entry directory name =>
    if nameLimit < name.utf8ByteSize then .error .nameTooLong else .ok (.entry directory name)
  | .directory location => .ok (.directory location)

/-- The location and the node that a path leads to. -/
def find (fs : FileSystem) (path : String) : Except FileError (Location × Node) := do
  match ← fs.resolve path with
  | .directory location => .ok (location, .directory)
  | .entry directory name =>
    match fs.nodeAt? (directory ++ [name]) with
    | none => .error .notFound
    | some .directory => .ok (directory ++ [name], .directory)
    | some (.file content) =>
      if isClosed path then .error .notDirectory
      else .ok (directory ++ [name], .file content)

/-- Whether a path leads to a directory. -/
def isDirectory (fs : FileSystem) (path : String) : Bool :=
  match fs.find path with
  | .ok (_, .directory) => true
  | _ => false

/-- The content of a file. -/
def read (fs : FileSystem) (path : String) : Except FileError ByteArray := do
  match ← fs.find path with
  | (_, .file content) => .ok content
  | (_, .directory) => .error .isDirectory

/-- Writes a file, which is created if it is missing.  Nothing can be created under a path that can
only mean a directory, whether its last name is a good one or not. -/
def write (fs : FileSystem) (path : String) (content : ByteArray) :
    Except FileError FileSystem := do
  if isClosed path then
    let _ ← fs.approach path
    .error .isDirectory
  else match ← fs.resolve path with
    | .directory _ => .error .isDirectory
    | .entry directory name =>
      match fs.nodeAt? (directory ++ [name]) with
      | some .directory => .error .isDirectory
      | _ => .ok (fs.put (directory ++ [name]) (.file content))

/-- Creates a directory; nothing may stand in its place. -/
def createDirectory (fs : FileSystem) (path : String) : Except FileError FileSystem := do
  match ← fs.resolve path with
  | .directory _ => .error .exists
  | .entry directory name =>
    match fs.nodeAt? (directory ++ [name]) with
    | some _ => .error .exists
    | none => .ok (fs.put (directory ++ [name]) .directory)

/-- Creates a directory unless it is there; a path that leads to nothing is left to the caller. -/
def ensureDirectory (fs : FileSystem) (path : String) : Except FileError FileSystem :=
  match fs.createDirectory path with
  | .ok fs => .ok fs
  | .error .notFound => .error .notFound
  | .error e => if fs.isDirectory path then .ok fs else .error e

/-- The path of some of the parts of a path. -/
def pathOf (absolute : Bool) (parts : List String) : String :=
  (if absolute then "/" else "") ++ String.intercalate "/" parts

/-- Creates a directory and, where they are missing, the directories above it; the parts of the
path stand in reverse.  The file system is given back in either case. -/
def createFromParts (absolute : Bool) : List String → FileSystem →
    Option FileError × FileSystem
  | [], fs => (none, fs)
  | part :: above, fs =>
    let path := pathOf absolute (above.reverse ++ [part])
    match fs.ensureDirectory path with
    | .ok fs => (none, fs)
    | .error .notFound =>
      match createFromParts absolute above fs with
      | (some e, fs) => (some e, fs)
      | (none, fs) =>
        match fs.ensureDirectory path with
        | .ok fs => (none, fs)
        | .error e => (some e, fs)
    | .error e => (some e, fs)

/-- Creates a directory and, where they are missing, the directories above it. -/
def createDirectories (path : String) (fs : FileSystem) : Option FileError × FileSystem :=
  if path = "" then (none, fs)
  else match fs.ensureDirectory path with
    | .ok fs => (none, fs)
    | .error .notFound =>
      match createFromParts (Path.isAbsolute path) (Path.parts path).dropLast.reverse fs with
      | (some e, fs) => (some e, fs)
      | (none, fs) =>
        match fs.ensureDirectory path with
        | .ok fs => (none, fs)
        | .error e => (some e, fs)
    | .error e => (some e, fs)

/-- The path of the directory that holds what a path names. -/
def parentPath (path : String) : String :=
  pathOf (Path.isAbsolute path) (Path.parts path).dropLast

/-- Moves a file.  A file in its place is replaced, a directory is not. -/
def rename (fs : FileSystem) (source destination : String) : Except FileError FileSystem := do
  match ← fs.resolve source, ← fs.resolve destination with
  | .entry fromDirectory fromName, .entry toDirectory toName =>
    let old := fromDirectory ++ [fromName]
    let new := toDirectory ++ [toName]
    match fs.nodeAt? old with
    | none => .error .notFound
    | some .directory => .error .isDirectory
    | some (.file content) =>
      if isClosed source || isClosed destination then .error .notDirectory
      else match fs.nodeAt? new with
        | some .directory => .error .isDirectory
        | _ => .ok ((fs.removeTree old).put new (.file content))
  | _, _ => .error .busy

end FileSystem

end ClassBridge
