import ClassBridge.Artifact.Emitter
import ClassBridge.FileSystem.Staging
import ClassBridge.FrontEnd.Check
import ClassBridge.Generator
import ClassBridge.Pipeline.Snapshot
import ClassBridge.Report
import ClassBridge.Translator.Tool

/-!
# Generating from a manifest

The standard artifacts of a manifest are written, or previewed, and the raw bindings are made by
the tool that the manifest names.  The report says what became of each file, or shows it.
-/

namespace ClassBridge

/-- What a generation did, or would do. -/
inductive BakeResult where
  | written (output : String) (files : List (String × WriteResult))
  /-- Files with their contents. -/
  | preview (files : List (String × String))
  deriving DecidableEq, Repr

/-- A generation, in numbers and files. -/
structure BakeReport where
  classCount : Nat
  containerCount : Nat
  warnings : List String
  /-- Where snapshots were dumped. -/
  dump : Option String
  result : BakeResult
  deriving DecidableEq, Repr

namespace BakeReport

/-- The ending that a count asks for. -/
def plural (count : Nat) (ending : String) : String := if count = 1 then "" else ending

/-- The line about a file that was generated. -/
def fileLine : String × WriteResult → ReportLine
  | (path, .written) => .addedItem path
  | (path, .unchanged) => .listItem (path ++ " (unchanged)")

/-- How many classes and containers there are. -/
def countText (r : BakeReport) : String :=
  toString r.classCount ++ " class" ++ plural r.classCount "es" ++ ", "
    ++ toString r.containerCount ++ " container" ++ plural r.containerCount "s"

/-- The lines about files that were written. -/
def writtenLines (r : BakeReport) (output : String) (files : List (String × WriteResult)) :
    Report :=
  (match r.dump with
    | some directory => [.keyValue "Pipeline snapshots written to" directory, .newline]
    | none => [])
    ++ [.preformatted r.countText, .newline, .section ("Generated (" ++ output ++ ")")]
    ++ files.map fileLine

/-- The lines of a preview. -/
def previewLines (files : List (String × String)) : Report :=
  files.flatMap (fun file => [.divider file.1, .preformatted file.2])
    ++ [.divider "Summary",
      .preformatted (toString files.length ++ " files would be generated")]

/-- The lines of the report. -/
def lines (r : BakeReport) : Report :=
  r.warnings.map .warning
    ++ match r.result with
      | .written output files => r.writtenLines output files
      | .preview files => previewLines files

end BakeReport

/-- How to generate. -/
structure BakeOptions where
  output : String
  dryRun : Bool := false
  /-- Whether to have the header translated, if the manifest wants it too. -/
  raw : Bool := true
  /-- Where to dump the model after each phase. -/
  dump : Option String := none
  deriving DecidableEq, Repr

/-- The journal of a generation. -/
abbrev Snapshots : Type := List Snapshot

/-- The pipeline of a generation. -/
def BakeOptions.pipeline (options : BakeOptions) : Pipeline Snapshots where
  plugins :=
    match options.dump with
    | none => []
    | some directory => [Snapshot.plugin (some directory) fun snapshot all => all ++ [snapshot]]

namespace Manifest

/-- The manifest with no raw bindings unless they are asked for. -/
def withRaw (manifest : Manifest) (raw : Bool) : Manifest :=
  if raw then manifest else { manifest with raw := { manifest.raw with enabled := false } }

/-- The generator of a manifest. -/
def generator (manifest : Manifest) (options : BakeOptions) (run : Runner) :
    Generator Snapshots where
  manifest := manifest.withRaw options.raw
  emitter := Emitter.standard
  pipeline := options.pipeline
  translator := some (Translator.ofTool run manifest.raw.tool)

/-- The report on a generation. -/
def bakeReport (manifest : Manifest) (options : BakeOptions) (warnings : List Diagnostic)
    (result : BakeResult) : BakeReport where
  classCount := manifest.classes.length
  containerCount := manifest.containers.length
  warnings := warnings.map Diagnostic.describe
  dump := options.dump
  result

/-- Generates the standard artifacts of a manifest, or previews them. -/
def bake (manifest : Manifest) (options : BakeOptions) (run : Runner) :
    Step (Workshop Snapshots) BakeReport := do
  let generator := manifest.generator options run
  if options.dryRun then
    let preview ← Step.during .compiling generator.preview
    return manifest.bakeReport options preview.warnings
      (.preview (preview.artifacts.map fun artifact => (artifact.path, artifact.content)))
  else
    let generated ← Step.during .generating (generator.generate options.output)
    return manifest.bakeReport options generated.warnings
      (.written options.output generated.files)

end Manifest

end ClassBridge
