import ClassBridge.FileSystem.Basic

/-!
# Listings

A listing shows what stands below a directory: all files, and the directories that hold nothing.
It goes through a directory in the order of its names, and lists a directory where it meets it.
-/

namespace ClassBridge

/-- Whether one path of names comes before another, name by name. -/
def Location.precedes : Location → Location → Bool
  | [], _ => true
  | _ :: _, [] => false
  | a :: as, b :: bs => a < b || (a == b && Location.precedes as bs)

namespace FileSystem

/-- The names that lead from a directory to what stands below it. -/
def below (directory location : Location) : Option Location :=
  if directory.isPrefixOf location && location != directory then
    some (location.drop directory.length)
  else none

/-- Whether nothing stands below a location. -/
def isBare (fs : FileSystem) (location : Location) : Bool :=
  fs.nodes.all fun entry => (below location entry.1).isNone

/-- The files and the empty directories below a directory. -/
def listing (fs : FileSystem) (directory : Location) : List (Location × Node) :=
  let shown := fs.nodes.filterMap fun (location, node) =>
    match below directory location, node with
    | some path, .file content => some (path, .file content)
    | some path, .directory => if fs.isBare location then some (path, .directory) else none
    | none, _ => none
  shown.mergeSort fun a b => a.1.precedes b.1

end FileSystem

end ClassBridge
