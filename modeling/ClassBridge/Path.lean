import ClassBridge.Text.Cut

/-!
# Paths as texts

A path is written with slashes.  Empty parts and single dots inside a path name nothing, so
`parts` leaves them out; a path is absolute when it begins with a slash.
-/

namespace ClassBridge

namespace Path

/-- The pieces of a path between its slashes. -/
def pieces (path : String) : List String := (Text.cutAt '/' path.toList).map String.ofList

/-- The parts of a path that name something; a double dot names the directory above. -/
def parts (path : String) : List String :=
  (pieces path).filter fun part => part != "" && part != "."

/-- Whether a path starts at the root. -/
def isAbsolute (path : String) : Bool := path.toList.head? == some '/'

/-- A path taken relative to a directory; an absolute path stands for itself. -/
def join (directory path : String) : String :=
  if isAbsolute path then path
  else if directory == "" || directory.toList.getLast? == some '/' then directory ++ path
  else directory ++ "/" ++ path

/-- The last part of a path, unless it has none or the last one leads upwards. -/
def fileName? (path : String) : Option String :=
  (parts path).getLast?.filter (· != "..")

/-- A file name without what follows its last dot; a dot at the start belongs to the name. -/
def stem (name : String) : String :=
  let reversed := name.toList.reverse
  match reversed.dropWhile (· != '.') with
  | [] => name
  | ['.'] => name
  | _ :: before => String.ofList before.reverse

end Path

end ClassBridge
