import ClassBridge.CommandLine.Paths
import ClassBridge.StandardTools.Runner

/-!
# The program

The run itself is a function on files.  Around it, the part of the disk that the run may look at is
read first, and what the run changed is written afterwards.
-/

namespace ClassBridge

/-- The path of a location on the disk. -/
def Location.path (location : Location) : String := "/" ++ String.intercalate "/" location

/-- What stands on the disk. -/
def probe (location : Location) : IO (Option Node) := do
  try
    return some (.file (← IO.FS.readBinFile location.path))
  catch _ =>
    try
      let _ ← IO.FS.realPath location.path
      return some .directory
    catch _ => return none

/-- Reads what stands at a location and above it, as far as it is not known. -/
def fetchLocation (files : FileSystem) (location : Location) : IO FileSystem :=
  location.chain.foldlM (fun files location => do
    if (files.nodeAt? location).isSome then return files
    match ← probe location with
    | some node => return files.put location node
    | none => return files) files

/-- Reads what stands at paths and above them. -/
def fetch (files : FileSystem) (paths : List String) : IO FileSystem :=
  paths.foldlM (fun files path => fetchLocation files (files.locationOf path)) files

/-- Writes what is new or changed, the directories first. -/
def store (before after : FileSystem) : IO Unit := do
  let changed := after.nodes.filter fun (location, node) => before.nodeAt? location != some node
  for (location, node) in changed do
    if node = .directory then IO.FS.createDirAll location.path
  for (location, node) in changed do
    if let .file content := node then IO.FS.writeBinFile location.path content

/-- Runs a command line on the disk. -/
def runOnDisk (arguments : List String) : IO UInt32 := do
  let start ← fetch { current := Path.parts (toString (← IO.currentDir)) } ["."]
  let schema ← fetch start (CommandLine.paths arguments start)
  let files ← fetch schema (CommandLine.paths arguments schema)
  let (outcome, after) := CommandLine.run StandardTools.run files arguments
  store files after
  IO.print outcome.stdout
  IO.eprint outcome.stderr
  return outcome.exit.toUInt32

end ClassBridge

/-- The program. -/
def main (arguments : List String) : IO UInt32 := ClassBridge.runOnDisk arguments
