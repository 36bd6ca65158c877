import ClassBridge.Pipeline.Phases

/-!
# Pipelines

**Parts.**  A pipeline is a list of phases with a list of plugins.  The three built-in phases come
first, then those that the user adds.  A plugin has a hook before and a hook after each phase.

**Sessions.**  Phases and hooks work on a `Session`: the compilation, the files, and a journal of
their own.  Any of them may fail.

**Runs.**  A phase runs after all of its before-hooks and is followed by its after-hooks even when
it fails; then its own failure counts, and not that of a hook.  A run ends at the first failure.
-/

namespace ClassBridge

/-- What phases and hooks work on. -/
structure Session (σ : Type) where
  compilation : Compilation
  files : FileSystem
  journal : σ

/-- A step of a compilation as a step of the session around it. -/
def CompilationStep.inSession {σ α : Type} (step : CompilationStep α) : Step (Session σ) α :=
  fun s =>
    match step s.compilation with
    | .ok value c => .ok value { s with compilation := c }
    | .error failure c => .error failure { s with compilation := c }

/-- A phase of a pipeline. -/
structure Phase (σ : Type) where
  name : String
  description : String
  run : Step (Session σ) Unit

/-- Hooks around every phase; each is told the name of the phase. -/
structure Plugin (σ : Type) where
  name : String
  before : (phase : String) → Step (Session σ) Unit := fun _ => pure ()
  after : (phase : String) → Step (Session σ) Unit := fun _ => pure ()

namespace Phase

variable {σ : Type}

/-- The phase that resolves the declared classes. -/
def normalize : Phase σ :=
  ⟨"normalize", "Resolve class defaults into the binding IR",
    CompilationStep.normalize.inSession⟩

/-- The phase that adds the containers. -/
def expand : Phase σ :=
  ⟨"expand", "Materialize container instantiations as classes",
    CompilationStep.expand.inSession⟩

/-- The phase that runs the lints. -/
def validate (lints : List Lint) : Phase σ :=
  ⟨"validate", "Run lints over the expanded model and fail on any error",
    (CompilationStep.validate lints).inSession⟩

end Phase

/-- A pipeline. -/
structure Pipeline (σ : Type) where
  lints : List Lint := Lint.builtin
  /-- The phases after the built-in ones. -/
  userPhases : List (Phase σ) := []
  plugins : List (Plugin σ) := []

namespace Pipeline

variable {σ : Type}

/-- All phases, in the order in which they run. -/
def phases (p : Pipeline σ) : List (Phase σ) :=
  [.normalize, .expand, .validate p.lints] ++ p.userPhases

/-- The before-hooks of a phase. -/
def beforeHooks (plugins : List (Plugin σ)) (phase : String) : Step (Session σ) Unit :=
  plugins.forM fun plugin => plugin.before phase

/-- The after-hooks of a phase. -/
def afterHooks (plugins : List (Plugin σ)) (phase : String) : Step (Session σ) Unit :=
  plugins.forM fun plugin => plugin.after phase

/-- A phase and its after-hooks; if both fail, the failure of the phase counts. -/
def runWithAfterHooks (plugins : List (Plugin σ)) (phase : Phase σ) :
    Step (Session σ) Unit := fun s =>
  match phase.run s with
  | .ok () s => afterHooks plugins phase.name s
  | .error failure s =>
    match afterHooks plugins phase.name s with
    | .ok () s => .error failure s
    | .error _ s => .error failure s

/-- A phase with all of its hooks. -/
def runPhase (plugins : List (Plugin σ)) (phase : Phase σ) : Step (Session σ) Unit := do
  beforeHooks plugins phase.name
  runWithAfterHooks plugins phase

/-- All phases with their hooks. -/
def run (p : Pipeline σ) : Step (Session σ) Unit := p.phases.forM (runPhase p.plugins)

/-- The session in which a manifest is compiled. -/
def start (manifest : Manifest) (files : FileSystem) (journal : σ) : Session σ where
  compilation := { manifest }
  files
  journal

end Pipeline

/-- The outcome of the default pipeline on a manifest; it touches no files. -/
def Manifest.compile (manifest : Manifest) : Except Failure Compilation :=
  match ({} : Pipeline Unit).run (Pipeline.start manifest {} ()) with
  | .ok () s => .ok s.compilation
  | .error failure _ => .error failure

end ClassBridge
