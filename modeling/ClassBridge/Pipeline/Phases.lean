import ClassBridge.Lint
import ClassBridge.Model.Expansion
import ClassBridge.Pipeline.Compilation

/-!
# The built-in phases

Three phases take a compilation from a manifest to a model without errors: the first resolves the
declared classes, the second adds the containers, the third looks for what is wrong.
-/

namespace ClassBridge

namespace CompilationStep

/-- Resolves the declared classes into a new model; this never fails. -/
def normalize : CompilationStep Unit :=
  fun c => .ok () { c with model := some (Model.declared c.manifest) }

/-- Reports the containers that have the names of declared classes, and adds all others to the
model, which has to be there.  The reports are recorded even if it is not. -/
def expand : CompilationStep Unit := fun c =>
  (report c.manifest.collisions >>= fun _ =>
    changeModel fun model => { model with classes := model.classes ++ c.manifest.expansion }) c

/-- Fails with all errors so far, if there are any. -/
def failOnErrors : CompilationStep Unit := fun c =>
  if c.hasErrors then .error (.invalid c.errors) c else .ok () c

/-- Records the findings of all lints, then fails if there are errors, whichever phase made them.
Without a model nothing is recorded. -/
def validate (lints : List Lint) : CompilationStep Unit := do
  report (Lint.findings lints (← model))
  failOnErrors

end CompilationStep

end ClassBridge
