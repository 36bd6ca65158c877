import ClassBridge.Manifest.Basic
import ClassBridge.Model.Basic

/-!
# Artifacts

An artifact is one generated file.  A `Renderer` says how its text comes from a model and where it
goes, which is where the manifest has the files of its `ArtifactKind` unless the renderer has a name
of its own.
-/

namespace ClassBridge

/-- The kinds of generated files. -/
inductive ArtifactKind where
  /-- Declarations of the exported C functions. -/
  | nativeHeader
  /-- Definitions of the exported C functions. -/
  | nativeSource
  /-- Safe foreign implementations over the raw bindings. -/
  | foreignGlue
  /-- Safe foreign wrappers of the containers. -/
  | containerWrapper
  /-- What a translator makes of the native header. -/
  | rawBindings
  deriving DecidableEq, Repr

namespace ArtifactKind

/-- The name of a kind. -/
def name : ArtifactKind → String
  | .nativeHeader => "native-header"
  | .nativeSource => "native-source"
  | .foreignGlue => "foreign-glue"
  | .containerWrapper => "container-wrapper"
  | .rawBindings => "raw-bindings"

/-- The file of a kind, relative to the output directory. -/
def fileName (kind : ArtifactKind) (output : OutputNames) : String :=
  match kind with
  | .nativeHeader => output.header
  | .nativeSource => output.source
  | .foreignGlue => output.glue
  | .containerWrapper => output.containers
  | .rawBindings => output.raw

end ArtifactKind

/-- A way to make one artifact. -/
structure Renderer where
  kind : ArtifactKind
  render : Model → String
  /-- The file, relative to the output directory. -/
  fileName : OutputNames → String := kind.fileName

/-- A file that is ready to be written. -/
structure Artifact where
  kind : ArtifactKind
  path : String
  content : String
  deriving DecidableEq, Repr

/-- Renderers, in the order in which their files are made. -/
abbrev Emitter : Type := List Renderer

/-- The artifacts of a model. -/
def Emitter.artifacts (emitter : Emitter) (model : Model) (output : OutputNames) : List Artifact :=
  emitter.map fun renderer =>
    { kind := renderer.kind
      path := renderer.fileName output
      content := renderer.render model }

end ClassBridge
