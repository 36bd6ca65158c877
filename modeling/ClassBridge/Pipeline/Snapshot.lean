import ClassBridge.Json
import ClassBridge.Pipeline.Basic

/-!
# Snapshots

A snapshot is what a compilation holds right after a phase.  The snapshot plugin records one after
each phase, a failed one included, and may also dump it into a directory, in a file named for the
phase.
-/

namespace ClassBridge

/-- What a compilation holds after a phase. -/
structure Snapshot where
  phase : String
  model : Option Model
  diagnostics : List Diagnostic
  deriving DecidableEq, Repr

/-- A diagnostic as it is dumped; a missing lint is left out. -/
def Diagnostic.json (d : Diagnostic) : Json :=
  .object ([("severity", .string d.severity.name), ("phase", .string d.phase)]
    ++ (match d.lint with | some lint => [("lint", .string lint)] | none => [])
    ++ [("message", .string d.message), ("location", .optional d.location)])

/-- A parameter as it is dumped. -/
def Parameter.json (p : Parameter) : Json :=
  .object [("name", .string p.name), ("ty", .string p.type)]

/-- A method as it is dumped. -/
def MethodModel.json (m : MethodModel) : Json :=
  .object [
    ("name", .string m.name),
    ("params", .array (m.params.map Parameter.json)),
    ("return_type", .optional m.returnType),
    ("body", .string m.body),
    ("is_const", .bool m.isConst),
    ("is_static", .bool m.isStatic)]

/-- An origin as it is dumped. -/
def Origin.json : Origin → Json
  | .declared => .object [("kind", .string "declared")]
  | .container native foreign =>
    .object [("kind", .string "container"), ("element_native", .string native),
      ("element_foreign", .string foreign)]

/-- A class as it is dumped. -/
def ClassModel.json (c : ClassModel) : Json :=
  .object [
    ("c_name", .string c.name),
    ("native_name", .string c.nativeName),
    ("include", .string c.includeName),
    ("origin", c.origin.json),
    ("dtor", .string c.dtor.name),
    ("generate_dtor", .bool c.generateDtor),
    ("default_ctor", .string c.defaultCtor.name),
    ("copy_ctor", .string c.copyCtor.name),
    ("copy_assign", .string c.copyAssign.name),
    ("movable", .bool c.movable),
    ("eq", .bool c.eq),
    ("ord", .bool c.ord),
    ("layout", .array (c.layout.map fun (field, type) => Json.strings [field, type])),
    ("methods", .array (c.methods.map MethodModel.json)),
    ("managed_object", .bool c.managedObject),
    ("managed_object_default_ctor", .bool c.managedObjectDefaultCtor)]

/-- Settings as they are dumped. -/
def Settings.json (s : Settings) : Json :=
  .object [
    ("prefix", .string s.symbolPrefix),
    ("prelude", .optional s.prelude),
    ("includes", Json.strings s.includes),
    ("header", .string s.header),
    ("raw_module", .string s.rawModule)]

/-- A model as it is dumped. -/
def Model.json (model : Model) : Json :=
  .object [
    ("meta", model.settings.json),
    ("classes", .array (model.classes.map ClassModel.json))]

namespace Snapshot

/-- A snapshot as it is dumped; a missing model is left out. -/
def json (s : Snapshot) : Json :=
  .object ([("phase", .string s.phase)]
    ++ (match s.model with | some model => [("ir", model.json)] | none => [])
    ++ [("diagnostics", .array (s.diagnostics.map Diagnostic.json))])

/-- What a compilation holds after a phase. -/
def ofCompilation (phase : String) (c : Compilation) : Snapshot :=
  ⟨phase, c.model, c.diagnostics⟩

/-- The file of a snapshot in a directory. -/
def path (directory phase : String) : String := Path.join directory (phase ++ ".json")

/-- Dumps a snapshot into a directory, which is created if it is missing. -/
def dump (directory : String) (s : Snapshot) : Step FileSystem Unit := fun files =>
  match files.createDirectories directory with
  | (some error, files) => .error (.file error) files
  | (none, files) =>
    match files.write (path directory s.phase) s.json.pretty.toUTF8 with
    | .ok files => .ok () files
    | .error error => .error (.file error) files

/-- Records a snapshot after a phase, once it is dumped if it is to be dumped. -/
def afterPhase {σ : Type} (directory : Option String) (record : Snapshot → σ → σ)
    (phase : String) : Step (Session σ) Unit := fun s =>
  let snapshot := ofCompilation phase s.compilation
  match directory with
  | none => .ok () { s with journal := record snapshot s.journal }
  | some directory =>
    match dump directory snapshot s.files with
    | .ok () files => .ok () { s with files, journal := record snapshot s.journal }
    | .error failure files => .error failure { s with files }

/-- The plugin that records snapshots, and dumps them if it is given a directory. -/
def plugin {σ : Type} (directory : Option String) (record : Snapshot → σ → σ) :
    Plugin σ where
  name := "snapshot"
  after := afterPhase directory record

end Snapshot

end ClassBridge
