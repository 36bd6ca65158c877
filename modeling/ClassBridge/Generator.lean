import ClassBridge.Artifact.Kind
import ClassBridge.FileSystem.Staging
import ClassBridge.Pipeline.Basic

/-!
# Generators

A generator takes a manifest to its artifacts: it compiles the model, renders every artifact in
memory, stages the files, has the header translated, and only then moves the files into place.  A
preview stops after rendering.
-/

namespace ClassBridge

/-- What a generation works on. -/
structure Workshop (σ : Type) where
  files : FileSystem
  journal : σ

/-- A step on files as a step of the workshop. -/
def Step.onFiles {σ α : Type} (step : Step FileSystem α) : Step (Workshop σ) α := fun w =>
  match step w.files with
  | .ok value files => .ok value { w with files }
  | .error failure files => .error failure { w with files }

/-- A manifest, with all that is needed to generate its artifacts. -/
structure Generator (σ : Type) where
  manifest : Manifest
  emitter : Emitter
  pipeline : Pipeline σ := {}
  translator : Option (Translator σ) := none
  /-- How staging directories are named. -/
  naming : Staging.Naming := Staging.freshName

/-- A preview of a generation. -/
structure Preview where
  artifacts : List Artifact
  warnings : List Diagnostic
  deriving DecidableEq, Repr

/-- The outcome of a generation. -/
structure Generated where
  files : List (String × WriteResult)
  warnings : List Diagnostic
  deriving DecidableEq, Repr

namespace Generator

variable {σ : Type}

/-- Runs the pipeline; gives the model and the warnings. -/
def compile (g : Generator σ) : Step (Workshop σ) (Model × List Diagnostic) := fun w =>
  match g.pipeline.run (Pipeline.start g.manifest w.files w.journal) with
  | .error failure s => .error failure ⟨s.files, s.journal⟩
  | .ok () s =>
    match s.compilation.model with
    | none => .error .noModel ⟨s.files, s.journal⟩
    | some model => .ok (model, s.compilation.warnings) ⟨s.files, s.journal⟩

/-- The artifacts of a model. -/
def artifacts (g : Generator σ) (model : Model) : List Artifact :=
  g.emitter.artifacts model g.manifest.output

/-- Renders every artifact without writing it. -/
def preview (g : Generator σ) : Step (Workshop σ) Preview := do
  let (model, warnings) ← g.compile
  return { artifacts := g.artifacts model, warnings }

/-- Stages artifacts; also gives the path of the last staged header, if there is one. -/
def stageArtifacts : List Artifact → Staging → Option String →
    Step FileSystem (Staging × Option String)
  | [], staging, header => pure (staging, header)
  | artifact :: rest, staging, header => do
    let path := staging.pathOf artifact.path
    let staging ← staging.stage artifact.path artifact.content
    stageArtifacts rest staging (if artifact.kind = .nativeHeader then some path else header)

/-- The translator, if raw bindings are wanted. -/
def activeTranslator (g : Generator σ) : Option (Translator σ) :=
  if g.manifest.raw.enabled then g.translator else none

/-- The raw bindings of a staged header. -/
def translate (translator : Translator σ) (header : String) (flags : TranslatorFlags) :
    Step (Workshop σ) String := fun w =>
  match translator.translate w.files header flags w.journal with
  | (.ok raw, journal) => .ok raw { w with journal }
  | (.error error, journal) =>
    .error (.during .translating (.untranslated error)) { w with journal }

/-- Stages the raw bindings, if they are wanted. -/
def stageRaw (g : Generator σ) (staging : Staging) (header : Option String) :
    Step (Workshop σ) Staging :=
  match g.activeTranslator with
  | none => pure staging
  | some translator =>
    match header with
    | none => Step.fail .noHeader
    | some header => do
      let raw ← translate translator header g.manifest.raw.flags
      (staging.stage g.manifest.output.raw raw).onFiles

/-- Works in a staging directory, which is removed in the end. -/
def withStaging {α : Type} (naming : Staging.Naming) (output : String)
    (body : Staging → Step (Workshop σ) α) : Step (Workshop σ) α := fun w =>
  match (Staging.createNamed naming output).onFiles w with
  | .error failure w => .error failure w
  | .ok staging w =>
    match body staging w with
    | .ok value w => .ok value { w with files := staging.discard w.files }
    | .error failure w => .error failure { w with files := staging.discard w.files }

/-- Stages all files and moves them into place. -/
def write (g : Generator σ) (artifacts : List Artifact) (output : String) :
    Step (Workshop σ) (List (String × WriteResult)) :=
  withStaging g.naming output fun staging => do
    let (staging, header) ← (stageArtifacts artifacts staging none).onFiles
    let staging ← g.stageRaw staging header
    (staging.commit output).onFiles

/-- Generates every artifact into the output directory. -/
def generate (g : Generator σ) (output : String) : Step (Workshop σ) Generated := do
  let (model, warnings) ← g.compile
  let files ← g.write (g.artifacts model) output
  return { files, warnings }

end Generator

end ClassBridge
