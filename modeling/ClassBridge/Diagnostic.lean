/-!
# Diagnostics

A diagnostic is one remark of the compiler about the schema: how grave it is, which phase made it,
and, where they are known, the lint behind it and the place it is about.
-/

namespace ClassBridge

/-- How grave a remark is. -/
inductive Severity where
  | error
  | warning
  | info
  deriving DecidableEq, Repr

/-- The name of a severity. -/
def Severity.name : Severity → String
  | .error => "error"
  | .warning => "warning"
  | .info => "info"

/-- One remark. -/
structure Diagnostic where
  severity : Severity
  phase : String
  lint : Option String := none
  message : String
  location : Option String := none
  deriving DecidableEq, Repr

namespace Diagnostic

/-- Whether the remark is an error. -/
def isError (d : Diagnostic) : Bool := d.severity == .error

/-- Whether the remark is a warning. -/
def isWarning (d : Diagnostic) : Bool := d.severity == .warning

/-- The location of a method. -/
def methodLocation (className method : String) : String := className ++ "." ++ method

/-- The remark on one line: severity and lint, then the location, then the message. -/
def render (d : Diagnostic) : String :=
  d.severity.name
    ++ (match d.lint with | some lint => "[" ++ lint ++ "]" | none => "")
    ++ (match d.location with | some location => ": " ++ location | none => "")
    ++ ": " ++ d.message

/-- The text of a validation that failed with these errors: their number and one line for each. -/
def failureText (errors : List Diagnostic) : String :=
  s!"validation failed with {errors.length} error(s)"
    ++ String.join (errors.map fun d => "\n  " ++ d.render)

end Diagnostic

end ClassBridge
