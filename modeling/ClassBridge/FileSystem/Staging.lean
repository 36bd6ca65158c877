import ClassBridge.Failure

/-!
# Staging

Files are first written into a fresh directory inside the output directory, and moved from there
to their places once all of them are written.  A file that already has the right content stays as
it is.  The staging directory goes away in the end, whether the files were moved or not.
-/

namespace ClassBridge

/-- What became of a staged file. -/
inductive WriteResult where
  | written
  | unchanged
  deriving DecidableEq, Repr

/-- A staging directory with the files that were staged in it. -/
structure Staging where
  /-- The path of the directory, from the root. -/
  directory : String
  location : Location
  /-- The paths of the staged files, relative to the output directory. -/
  staged : List String := []
  deriving DecidableEq, Repr

namespace Staging

/-- A path from the root that leads where a path leads. -/
def absolutePath (fs : FileSystem) (path : String) : String :=
  if Path.isAbsolute path then path else Path.join ("/" ++ String.intercalate "/" fs.current) path

/-- The name of a staging directory, by its number. -/
def candidate (n : Nat) : String :=
  let digits := toString n
  ".cabind-staging-" ++ String.ofList (List.replicate (6 - digits.length) '0') ++ digits

/-- The first name that is free in a directory; one among the first `n + 1` names is free if there
are `n` nodes. -/
def freshName (fs : FileSystem) (directory : Location) : String :=
  let isFree (n : Nat) : Bool := (fs.nodeAt? (directory ++ [candidate n])).isNone
  candidate (((List.range (fs.nodes.length + 1)).find? isFree).getD 0)

/-- A way to name a new directory inside a directory, with a name that is free there. -/
abbrev Naming : Type := FileSystem → Location → String

/-- Creates a staging directory inside the output directory, which is created if it is missing.
The directory that gets the new name is found from the root. -/
def createNamed (naming : Naming) (output : String) : Step FileSystem Staging := fun files =>
  match files.createDirectories output with
  | (some error, files) => .error (.during (.creating output) (.file error)) files
  | (none, files) =>
    match files.find (absolutePath files output) with
    | .error error => .error (.during .creatingStaging (.file error)) files
    | .ok (_, .file _) => .error (.during .creatingStaging (.file .notDirectory)) files
    | .ok (location, .directory) =>
      let name := naming files location
      let staging : Staging :=
        { directory := Path.join (absolutePath files output) name, location := location ++ [name] }
      .ok staging (files.put staging.location .directory)

/-- Creates a staging directory under the first number that is free. -/
def create (output : String) : Step FileSystem Staging := createNamed freshName output

/-- Where the staged copy of a file is. -/
def pathOf (s : Staging) (file : String) : String := Path.join s.directory file

/-- Stages a file. -/
def stage (s : Staging) (file content : String) : Step FileSystem Staging := fun files =>
  match files.createDirectories (FileSystem.parentPath (s.pathOf file)) with
  | (some error, files) => .error (.file error) files
  | (none, files) =>
    match files.write (s.pathOf file) content.toUTF8 with
    | .error error => .error (.during (.writing (s.pathOf file)) (.file error)) files
    | .ok files => .ok { s with staged := s.staged ++ [file] } files

/-- Whether two paths lead to files of the same content. -/
def sameContent (files : FileSystem) (a b : String) : Bool :=
  match files.read a, files.read b with
  | .ok x, .ok y => x == y
  | _, _ => false

/-- Moves one staged file to its place, unless a file of the same content stands there. -/
def commitFile (s : Staging) (output file : String) : Step FileSystem WriteResult := fun files =>
  let destination := Path.join output file
  if sameContent files (s.pathOf file) destination then .ok .unchanged files
  else match files.createDirectories (FileSystem.parentPath destination) with
    | (some error, files) => .error (.file error) files
    | (none, files) =>
      match files.rename (s.pathOf file) destination with
      | .ok files => .ok .written files
      | .error error => .error (.during (.moving destination) (.file error)) files

/-- Moves staged files to their places, one after the other, up to the first that fails. -/
def commitFiles (s : Staging) (output : String) :
    List String → Step FileSystem (List (String × WriteResult))
  | [] => pure []
  | file :: rest => do
    let result ← s.commitFile output file
    let results ← commitFiles s output rest
    return (file, result) :: results

/-- Moves all staged files to their places. -/
def commit (s : Staging) (output : String) : Step FileSystem (List (String × WriteResult)) :=
  s.commitFiles output s.staged

/-- Removes the staging directory with all that is in it. -/
def discard (s : Staging) (files : FileSystem) : FileSystem := files.removeTree s.location

end Staging

end ClassBridge
