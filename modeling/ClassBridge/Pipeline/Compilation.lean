import ClassBridge.Failure
import ClassBridge.Model.Basic

/-!
# Compilations

A compilation is the state that the phases of the pipeline hand on: the manifest, the model as far
as there is one, and all diagnostics so far.  A phase only ever sees this state, so phases can also
be driven one by one.
-/

namespace ClassBridge

/-- The state of a compilation. -/
structure Compilation where
  manifest : Manifest
  model : Option Model := none
  diagnostics : List Diagnostic := []
  deriving DecidableEq, Repr

namespace Compilation

/-- The errors so far. -/
def errors (c : Compilation) : List Diagnostic := c.diagnostics.filter Diagnostic.isError

/-- The warnings so far. -/
def warnings (c : Compilation) : List Diagnostic := c.diagnostics.filter Diagnostic.isWarning

/-- Whether there are errors. -/
def hasErrors (c : Compilation) : Bool := !c.errors.isEmpty

/-- Whether there are warnings. -/
def hasWarnings (c : Compilation) : Bool := !c.warnings.isEmpty

/-- The state with further diagnostics. -/
def report (c : Compilation) (diagnostics : List Diagnostic) : Compilation :=
  { c with diagnostics := c.diagnostics ++ diagnostics }

end Compilation

/-- A step of a compilation. -/
abbrev CompilationStep (α : Type) : Type := Step Compilation α

namespace CompilationStep

/-- Records diagnostics. -/
def report (diagnostics : List Diagnostic) : CompilationStep Unit :=
  fun c => .ok () (c.report diagnostics)

/-- Forgets all diagnostics. -/
def clear : CompilationStep Unit := fun c => .ok () { c with diagnostics := [] }

/-- Puts a model in the place of the one that may be there. -/
def setModel (model : Model) : CompilationStep Unit :=
  fun c => .ok () { c with model := some model }

/-- The model, which has to be there. -/
def model : CompilationStep Model := fun c =>
  match c.model with
  | some model => .ok model c
  | none => .error .noModel c

/-- Changes the model, which has to be there. -/
def changeModel (change : Model → Model) : CompilationStep Unit := fun c =>
  match c.model with
  | some model => .ok () { c with model := some (change model) }
  | none => .error .noModel c

/-- Takes the model away, which has to be there. -/
def takeModel : CompilationStep Model := fun c =>
  match c.model with
  | some model => .ok model { c with model := none }
  | none => .error .noModel c

end CompilationStep

end ClassBridge
