import ClassBridge.Artifact.Header
import ClassBridge.Artifact.Source
import ClassBridge.Artifact.Wrapper

/-!
# The standard artifacts

Everything that a generation makes without a translator, in emission order.
-/

namespace ClassBridge

/-- The renderers of all artifacts that do not need a translator. -/
def Emitter.standard : Emitter :=
  [Renderer.header, Renderer.source, Renderer.glue, Renderer.wrapper]

end ClassBridge
