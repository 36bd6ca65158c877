import ClassBridge.Pipeline.Basic
import ClassBridge.Report

/-!
# Checking a manifest

A check runs the default pipeline and sorts what it reports by severity.  A model with errors is a
finding of the check and not a failure of it.  The report lists the findings, then the verdict.
-/

namespace ClassBridge

/-- What a check found. -/
structure CheckReport where
  config : String
  classCount : Nat
  containerCount : Nat
  errors : List String := []
  warnings : List String := []
  infos : List String := []
  deriving DecidableEq, Repr

namespace CheckReport

/-- Whether the schema is valid. -/
def isValid (r : CheckReport) : Bool := r.errors.isEmpty

/-- The verdict at the end. -/
def verdict (r : CheckReport) : Report :=
  if r.isValid then
    [.preformatted ("✓ " ++ r.config ++ " is valid"),
      .keyValue "  Classes" (toString r.classCount),
      .keyValue "  Containers" (toString r.containerCount)]
  else [.preformatted ("✗ " ++ r.config ++ " has " ++ toString r.errors.length ++ " error(s)")]

/-- The lines of the report. -/
def lines (r : CheckReport) : Report :=
  r.errors.map .error
    ++ r.warnings.map .warning
    ++ r.infos.map (fun info => .preformatted ("info: " ++ info))
    ++ (if r.warnings.isEmpty && r.errors.isEmpty then [] else [.newline])
    ++ r.verdict

end CheckReport

/-- A diagnostic as reports show it: the lint and the message, and the location on a line of its
own. -/
def Diagnostic.describe (d : Diagnostic) : String :=
  (match d.lint with | some lint => "[" ++ lint ++ "] " | none => "") ++ d.message
    ++ (match d.location with | some location => "\n  --> " ++ location | none => "")

namespace Manifest

/-- The diagnostics of the default pipeline; those of a model with errors are its errors. -/
def diagnose (manifest : Manifest) : Except Failure (List Diagnostic) :=
  match manifest.compile with
  | .ok c => .ok c.diagnostics
  | .error (.invalid errors) => .ok errors
  | .error failure => .error failure

/-- The descriptions of the diagnostics of a severity. -/
def described (severity : Severity) (diagnostics : List Diagnostic) : List String :=
  (diagnostics.filter fun d => d.severity == severity).map Diagnostic.describe

/-- Checks a manifest that was read from a file. -/
def check (manifest : Manifest) (config : String) : Except Failure CheckReport := do
  let diagnostics ← manifest.diagnose
  return {
    config
    classCount := manifest.classes.length
    containerCount := manifest.containers.length
    errors := described .error diagnostics
    warnings := described .warning diagnostics
    infos := described .info diagnostics }

end Manifest

end ClassBridge
