import ClassBridge.Manifest.Basic

/-!
# Binding models

A binding model is a manifest with every default resolved and every container turned into a
class.  All that is generated is a function of a model alone.
-/

namespace ClassBridge

/-- A parameter of a method, with its native type. -/
structure Parameter where
  name : String
  type : String
  deriving DecidableEq, Repr

/-- A method of a class. -/
structure MethodModel where
  name : String
  params : List Parameter
  /-- The native type of the result; none if nothing is returned. -/
  returnType : Option String
  /-- Native code, never interpreted. -/
  body : String
  isConst : Bool
  isStatic : Bool
  deriving DecidableEq, Repr

/-- Where a class comes from. -/
inductive Origin where
  /-- The schema declares it. -/
  | declared
  /-- It is the container of an element with these native and foreign spellings. -/
  | container (native foreign : String)
  deriving DecidableEq, Repr

/-- A class that is bridged. -/
structure ClassModel where
  /-- The name in C symbols and in foreign declarations. -/
  name : String
  nativeName : String
  /-- The native include that provides the class. -/
  includeName : String
  origin : Origin
  dtor : Lifecycle
  /-- Whether a C function destroys objects of the class. -/
  generateDtor : Bool
  defaultCtor : Lifecycle
  copyCtor : Lifecycle
  copyAssign : Lifecycle
  movable : Bool
  eq : Bool
  ord : Bool
  layout : List (String × String)
  methods : List MethodModel
  managedObject : Bool
  managedObjectDefaultCtor : Bool
  deriving DecidableEq, Repr

namespace ClassModel

/-- Whether the foreign side knows the fields of the class. -/
def hasLayout (c : ClassModel) : Bool := !c.layout.isEmpty

/-- Whether the native spelling differs from the name. -/
def isRenamed (c : ClassModel) : Bool := c.nativeName != c.name

/-- The first method of a name. -/
def method? (c : ClassModel) (name : String) : Option MethodModel :=
  c.methods.find? fun m => m.name == name

/-- Whether the class is a container. -/
def isContainer (c : ClassModel) : Bool :=
  match c.origin with
  | .declared => false
  | .container _ _ => true

end ClassModel

/-- What all artifacts share. -/
structure Settings where
  symbolPrefix : String := ""
  prelude : Option String := none
  includes : List String := []
  /-- The file name of the native header, as the source includes it. -/
  header : String := ""
  /-- The module of the raw bindings, as the foreign glue imports it. -/
  rawModule : String := ""
  deriving DecidableEq, Repr

/-- A binding model: the declared classes, then the containers. -/
structure Model where
  settings : Settings := {}
  classes : List ClassModel := []
  deriving DecidableEq, Repr

namespace Model

/-- The first class of a name. -/
def class? (model : Model) (name : String) : Option ClassModel :=
  model.classes.find? fun c => c.name == name

/-- The classes that are containers. -/
def containers (model : Model) : List ClassModel :=
  model.classes.filter ClassModel.isContainer

end Model

end ClassBridge
