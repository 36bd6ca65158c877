import ClassBridge.Diagnostic
import ClassBridge.Translator.Basic

/-!
# Failures

A failure says why a compilation or a generation ended without a result.  It has a cause at the
bottom, and around it the tasks during which the cause came up.  `Failure.chain` gives the texts
of a failure from the outermost task down to the cause.
-/

namespace ClassBridge

/-- What was being done when a failure came up. -/
inductive Task where
  | creating (directory : String)
  | creatingStaging
  | writing (path : String)
  | moving (path : String)
  | translating
  | compiling
  | generating
  | running
  deriving DecidableEq, Repr

/-- The text of a failure of a task. -/
def Task.message : Task → String
  | .creating directory => "failed to create '" ++ directory ++ "'"
  | .creatingStaging => "failed to create staging directory"
  | .writing path => "failed to write '" ++ path ++ "'"
  | .moving path => "failed to move '" ++ path ++ "' into place"
  | .translating => "failed to generate raw bindings"
  | .compiling => "Failed to compile bindings"
  | .generating => "Failed to generate bindings"
  | .running => "Pipeline failed"

/-- Why there is no result. -/
inductive Failure where
  /-- The model has errors. -/
  | invalid (errors : List Diagnostic)
  /-- A step needs a model and there is none. -/
  | noModel
  /-- An extension refused to go on, in its own words. -/
  | refused (words : String)
  | file (error : FileError)
  /-- A translator failed. -/
  | untranslated (error : TranslateError)
  /-- Raw bindings are wanted, but no header is generated. -/
  | noHeader
  /-- Another failure, during a task. -/
  | during (task : Task) (failure : Failure)
  deriving DecidableEq, Repr

namespace Failure

/-- The texts of a failure, from the outermost task to the cause. -/
def chain : Failure → List String
  | .invalid errors => [Diagnostic.failureText errors]
  | .noModel => ["no binding IR yet; the normalize phase must run first"]
  | .refused words => [words]
  | .file error => [error.message]
  | .untranslated error => error.message :: error.cause?.toList
  | .noHeader => ["raw bindings need a native header artifact"]
  | .during task failure => task.message :: failure.chain

/-- The errors of the model, if they are the cause. -/
def modelErrors? : Failure → Option (List Diagnostic)
  | .invalid errors => some errors
  | .during _ failure => failure.modelErrors?
  | _ => none

end Failure

/-- A step on a state that may fail; the state lives on in either case. -/
abbrev Step (σ α : Type) : Type := EStateM Failure σ α

namespace Step

/-- A step, any failure of which comes up during a task. -/
def during {σ α : Type} (task : Task) (step : Step σ α) : Step σ α := fun s =>
  match step s with
  | .ok value s => .ok value s
  | .error failure s => .error (.during task failure) s

/-- A step that fails and changes nothing. -/
def fail {σ α : Type} (failure : Failure) : Step σ α := fun s => .error failure s

end Step

end ClassBridge
