import ClassBridge.Identifier
import ClassBridge.Manifest.Basic
import ClassBridge.Manifest.Span

/-!
# The names of a manifest

Every name of a manifest that the generated code spells has to be an identifier.  The symbol
prefix and the names of classes, layout fields, parameters and containers stand alone, so they
must not be keywords either; a method name only ever stands inside a longer symbol.

`Manifest.checkNames` walks over a manifest and stops at the first bad name.  A `NameError` says
which name is bad, what it names, why, and where the schema most likely declares it.
-/

namespace ClassBridge

/-- What is wrong with a name. -/
inductive NameProblem where
  | keyword
  | invalid (defect : Identifier.Defect)
  deriving DecidableEq, Repr

/-- A bad name of a manifest. -/
structure NameError where
  name : String
  /-- What the name names, and where. -/
  context : String
  problem : NameProblem
  span : Option Span
  deriving DecidableEq, Repr

namespace NameError

/-- The text of the error. -/
def message (error : NameError) : String :=
  match error.problem with
  | .keyword => "'" ++ error.name ++ "' is a C++ keyword and cannot name a " ++ error.context
  | .invalid _ => "'" ++ error.name ++ "' is not a valid " ++ error.context ++ " name"

/-- What to do about the error. -/
def help (error : NameError) : String :=
  match error.problem with
  | .keyword => "pick another name, e.g. '" ++ error.name ++ "_'"
  | .invalid defect =>
    defect.reason ++
      "; generated C symbols need letters, digits and underscores only, not starting with a digit"

/-- The label of the span. -/
def label (error : NameError) : String :=
  match error.problem with
  | .keyword => "keyword"
  | .invalid _ => "not a C identifier"

end NameError

/-- A place in a manifest: the schema text, and the names of what encloses the place. -/
structure NameScope where
  text : String
  path : List String := []
  deriving DecidableEq, Repr

namespace NameScope

/-- The scope inside a class or a method. -/
def inside (scope : NameScope) (name : String) : NameScope :=
  { scope with path := scope.path ++ [name] }

/-- The enclosing names, joined by points. -/
def pathText (scope : NameScope) : String := String.intercalate "." scope.path

/-- What a name of some kind is called in this scope. -/
def describe (scope : NameScope) (kind : String) : String :=
  if scope.path.isEmpty then kind else kind ++ " in '" ++ scope.pathText ++ "'"

/-- Where the schema most likely declares a name. -/
def span? (scope : NameScope) (name : String) : Option Span := Span.ofName? scope.text name

/-- The error about a name of this scope. -/
def fail (scope : NameScope) (name kind : String) (problem : NameProblem) : NameError :=
  ⟨name, scope.describe kind, problem, scope.span? name⟩

/-- Accepts identifiers. -/
def checkIdentifier (scope : NameScope) (name kind : String) : Except NameError Unit :=
  match Identifier.defect? name with
  | some defect => .error (scope.fail name kind (.invalid defect))
  | none => .ok ()

/-- Accepts identifiers that are not keywords. -/
def checkName (scope : NameScope) (name kind : String) : Except NameError Unit :=
  if isNativeKeyword name then .error (scope.fail name kind .keyword)
  else scope.checkIdentifier name kind

end NameScope

namespace Manifest

/-- Checks a method: its name, then its parameters. -/
def checkMethod (scope : NameScope) (name : String) (method : MethodDecl) :
    Except NameError Unit := do
  scope.checkIdentifier name "method"
  method.params.forM fun param => (scope.inside name).checkName param.1 "parameter"

/-- Checks a class: its name, its layout fields, then its methods. -/
def checkClass (scope : NameScope) (name : String) (decl : ClassDecl) : Except NameError Unit := do
  scope.checkName name "class"
  decl.layout.forM fun field => (scope.inside name).checkName field.1 "layout field"
  decl.methods.forM fun method => checkMethod (scope.inside name) method.1 method.2

/-- Checks every name of a manifest that was read from a text. -/
def checkNames (manifest : Manifest) (text : String) : Except NameError Unit := do
  let scope : NameScope := { text }
  scope.checkName manifest.symbolPrefix "prefix"
  manifest.classes.forM fun entry => checkClass scope entry.1 entry.2
  manifest.containers.forM fun entry => scope.checkName entry.1 "container"

end Manifest

end ClassBridge
