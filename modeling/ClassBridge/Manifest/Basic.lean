/-!
# Manifests

A manifest says which native classes are bridged to the foreign side, and how.  Everything that
has an order in the schema is a list here: classes, containers, layout fields, methods and
parameters stand in the order of their first appearance, each under its name.
-/

namespace ClassBridge

/-- What is generated for one lifecycle operation of a class. -/
inductive Lifecycle where
  /-- Nothing. -/
  | suppressed
  /-- A C function that wraps the native operation. -/
  | generated
  /-- No function; copying the bytes of the object does the job. -/
  | trivial
  deriving DecidableEq, Repr

namespace Lifecycle

/-- How the schema spells a policy. -/
def spelling : Lifecycle → String
  | .suppressed => "false"
  | .generated => "true"
  | .trivial => "trivial"

/-- The policy of a truth value. -/
def ofBool (value : Bool) : Lifecycle := if value then .generated else .suppressed

/-- The policy of a spelling. -/
def ofSpelling? (text : String) : Option Lifecycle :=
  if text = "trivial" then some .trivial
  else if text = "true" then some .generated
  else if text = "false" then some .suppressed
  else none

/-- The name of a policy in a dumped model. -/
def name : Lifecycle → String
  | .suppressed => "suppressed"
  | .generated => "generated"
  | .trivial => "trivial"

end Lifecycle

/-- One callable member or static function of a class. -/
structure MethodDecl where
  params : List (String × String) := []
  returnType : Option String := none
  /-- Native code, pasted as it is. -/
  body : String := ""
  isConst : Bool := false
  isStatic : Bool := false
  deriving DecidableEq, Repr

/-- One bridged class. -/
structure ClassDecl where
  dtor : Lifecycle := .generated
  defaultCtor : Lifecycle := .suppressed
  copyCtor : Lifecycle := .suppressed
  copyAssign : Lifecycle := .suppressed
  movable : Bool := false
  eq : Bool := false
  ord : Bool := false
  /-- The fields that the foreign side may see, with their native types. -/
  layout : List (String × String) := []
  methods : List (String × MethodDecl) := []
  /-- The host owns the objects; the bridge never destroys one. -/
  managedObject : Bool := false
  managedObjectDefaultCtor : Bool := false
  /-- The native spelling, where it is not the name of the class. -/
  overwriteName : Option String := none
  /-- The native include, where it is not the name of the class. -/
  overwriteInclude : Option String := none
  deriving DecidableEq, Repr

/-- A container of one element type, to be bridged as a class. -/
structure Instantiation where
  /-- The element as the native side spells it. -/
  native : String := ""
  /-- The element as the foreign side spells it. -/
  foreign : String := ""
  deriving DecidableEq, Repr

/-- The native template that containers are instances of. -/
structure ContainerTemplate where
  template : String := "std::vector"
  /-- The include that provides the template. -/
  includeName : String := "vector"
  deriving DecidableEq, Repr

/-- The native spelling of the container of an element. -/
def ContainerTemplate.instantiate (config : ContainerTemplate) (element : String) : String :=
  config.template ++ "<" ++ element ++ ">"

/-- The file names of what is generated, relative to the output directory. -/
structure OutputNames where
  header : String := "ffi.hpp"
  source : String := "ffi.cpp"
  glue : String := "ffi_impl.rs"
  containers : String := "list.rs"
  raw : String := "ffi.rs"
  deriving DecidableEq, Repr

/-- Settings of the tool that translates the native header. -/
structure RawSettings where
  enabled : Bool := true
  tool : String := "bindgen"
  foreignTarget : String := "1.20"
  headerArgs : List String := ["-DBINDGEN"]
  deriving DecidableEq, Repr

/-- A whole schema. -/
structure Manifest where
  /-- What every exported symbol begins with. -/
  symbolPrefix : String := "ffi"
  /-- Text put at the top of the native header. -/
  prelude : Option String := none
  includes : List String := []
  classes : List (String × ClassDecl) := []
  containers : List (String × Instantiation) := []
  container : ContainerTemplate := {}
  output : OutputNames := {}
  raw : RawSettings := {}
  deriving DecidableEq, Repr

/-- The declared class of a name. -/
def Manifest.class? (manifest : Manifest) (name : String) : Option ClassDecl :=
  manifest.classes.lookup name

/-- Whether a class of a name is declared. -/
def Manifest.declares (manifest : Manifest) (name : String) : Bool :=
  manifest.classes.any fun entry => entry.1 == name

end ClassBridge
