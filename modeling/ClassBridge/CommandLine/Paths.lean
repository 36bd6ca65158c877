import ClassBridge.CommandLine.Run

/-!
# The paths of a run

A run only ever looks at the schema, at the files that it generates, at the models that it dumps,
and at the directories above them.  So it needs no more of a disk than these.
-/

namespace ClassBridge

/-- The location after one more name of a path. -/
def Location.follow (location : Location) (name : String) : Location :=
  if name = ".." then location.dropLast else location ++ [name]

/-- Where a path leads by its names alone. -/
def FileSystem.locationOf (files : FileSystem) (path : String) : Location :=
  (Path.parts path).foldl Location.follow (if Path.isAbsolute path then [] else files.current)

/-- A location and all locations above it, the root apart, from the top down. -/
def Location.chain (location : Location) : List Location :=
  (List.range location.length).map fun n => location.take (n + 1)

namespace CommandLine.Request

/-- The schema of a request. -/
def schemaPath? : Request → Option String
  | .bake config _ => some config
  | .check config => some config
  | .explain config => some config
  | .help => none
  | .version => none

/-- What a request may write, given its manifest. -/
def outputPaths (request : Request) (manifest : Manifest) : List String :=
  match request with
  | .bake _ options =>
    let names := manifest.output
    let files := [names.header, names.source, names.glue, names.containers, names.raw]
    let phases := ({} : Pipeline Unit).phases.map Phase.name
    files.map (Path.join options.output)
      ++ options.dump.toList.flatMap fun directory => phases.map (Snapshot.path directory)
  | _ => []

/-- What a request may look at, given what is known of the schema. -/
def paths (request : Request) (files : FileSystem) : List String :=
  match request.schemaPath? with
  | none => []
  | some path =>
    path ::
      match Manifest.read files path with
      | .ok manifest => request.outputPaths manifest
      | .error _ => []

end CommandLine.Request

/-- What a command line may look at, given what is known of the schema. -/
def CommandLine.paths (arguments : List String) (files : FileSystem) : List String :=
  match CommandLine.Request.ofArguments arguments with
  | .ok request => request.paths files
  | .error _ => []

end ClassBridge
