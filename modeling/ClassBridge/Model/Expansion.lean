import ClassBridge.Diagnostic
import ClassBridge.Model.Declared

/-!
# Containers as classes

A container stands for a class with an opaque pointer as its layout, a full lifecycle and six
methods; only the spellings of the element and the names differ from one container to the next.
A container that has the name of a declared class stands for nothing and is reported.
-/

namespace ClassBridge

namespace Instantiation

/-- The methods of the container `name` of the native element `element`. -/
def methods (name element : String) : List (String × MethodDecl) := [
  ("size",
    { returnType := some "int", body := "return self->size();", isConst := true }),
  ("asSlice",
    { params := [("size", "int*")]
      returnType := some (element ++ " const*")
      body := "*size = self->size();\nif (*size == 0) \x7b\n    return nullptr;\n\x7d\n"
        ++ "return &self->front();"
      isConst := true }),
  ("append",
    { params := [("item", element ++ " const*")], body := "self->push_back(*item);" }),
  ("appendList",
    { params := [("other", name ++ " const*")]
      body := "auto const& items = *other;\nself->reserve(self->size() + items.size());\n"
        ++ "for (auto const& item : items) \x7b\n    self->push_back(item);\n\x7d" }),
  ("appendSlice",
    { params := [("items", element ++ " const*"), ("size", "int")]
      body := "self->reserve(self->size() + size);\n"
        ++ "for (int i = 0; i < size; ++i) \x7b\n    self->push_back(items[i]);\n\x7d" }),
  ("reserveAdditional",
    { params := [("additional", "int")], body := "self->reserve(self->size() + additional);" })]

/-- The class that a container stands for. -/
def classDecl (name : String) (instance_ : Instantiation) (config : ContainerTemplate) :
    ClassDecl where
  dtor := .generated
  defaultCtor := .generated
  copyCtor := .generated
  copyAssign := .generated
  movable := true
  eq := true
  layout := [("_d", "void*")]
  methods := methods name instance_.native
  overwriteName := some (config.instantiate instance_.native)
  overwriteInclude := some config.includeName

/-- The model of the class that a container stands for. -/
def model (name : String) (instance_ : Instantiation) (config : ContainerTemplate) : ClassModel :=
  (instance_.classDecl name config).model name (.container instance_.native instance_.foreign)

end Instantiation

namespace Manifest

/-- The containers whose names no declared class has. -/
def freeContainers (manifest : Manifest) : List (String × Instantiation) :=
  manifest.containers.filter fun (name, _) => !manifest.declares name

/-- The classes that the containers of a manifest stand for. -/
def expansion (manifest : Manifest) : List ClassModel :=
  manifest.freeContainers.map fun (name, instance_) => instance_.model name manifest.container

/-- The report about a container that has the name of a declared class. -/
def collision (name : String) : Diagnostic where
  severity := .error
  phase := "expand"
  message := "container '" ++ name ++ "' collides with a declared class"
  location := some ("containers." ++ name)

/-- The reports about containers that have the names of declared classes. -/
def collisions (manifest : Manifest) : List Diagnostic :=
  (manifest.containers.filter fun (name, _) => manifest.declares name).map fun (name, _) =>
    collision name

end Manifest

/-- The whole model of a manifest: the declared classes, then the containers. -/
def Model.ofManifest (manifest : Manifest) : Model :=
  let model := Model.declared manifest
  { model with classes := model.classes ++ manifest.expansion }

end ClassBridge
