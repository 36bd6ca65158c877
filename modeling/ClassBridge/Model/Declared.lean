import ClassBridge.Model.Basic
import ClassBridge.Path
import ClassBridge.Text.Blank

/-!
# The model of the declared classes

`Model.declared` resolves the defaults of every declared class of a manifest.  It is total: every
manifest has such a model.
-/

namespace ClassBridge

/-- A result type that says nothing is returned. -/
def isVoid (type : String) : Bool := Text.trimmed type == "void"

/-- The model of a method. -/
def MethodDecl.model (name : String) (decl : MethodDecl) : MethodModel where
  name
  params := decl.params.map fun (name, type) => { name, type }
  returnType := decl.returnType.filter fun type => !isVoid type
  body := decl.body
  isConst := decl.isConst
  isStatic := decl.isStatic

namespace ClassDecl

/-- Whether a C function destroys objects of a class: the host owns managed objects, and a trivial
destructor need not be called. -/
def generatesDtor (decl : ClassDecl) : Bool := !decl.managedObject && decl.dtor != .trivial

/-- The model of a class. -/
def model (name : String) (decl : ClassDecl) (origin : Origin) : ClassModel where
  name
  nativeName := decl.overwriteName.getD name
  includeName := decl.overwriteInclude.getD name
  origin
  dtor := decl.dtor
  generateDtor := decl.generatesDtor
  defaultCtor := decl.defaultCtor
  copyCtor := decl.copyCtor
  copyAssign := decl.copyAssign
  movable := decl.movable
  eq := decl.eq
  ord := decl.ord
  layout := decl.layout
  methods := decl.methods.map fun (name, method) => method.model name
  managedObject := decl.managedObject
  managedObjectDefaultCtor := decl.managedObjectDefaultCtor

end ClassDecl

/-- The module that a file of raw bindings is imported as. -/
def rawModuleName (file : String) : String :=
  match Path.fileName? file with
  | some name => Path.stem name
  | none => file

/-- The settings of a manifest that artifacts need. -/
def Manifest.settings (manifest : Manifest) : Settings where
  symbolPrefix := manifest.symbolPrefix
  prelude := manifest.prelude
  includes := manifest.includes
  header := manifest.output.header
  rawModule := rawModuleName manifest.output.raw

/-- The model of the declared classes of a manifest. -/
def Model.declared (manifest : Manifest) : Model where
  settings := manifest.settings
  classes := manifest.classes.map fun (name, decl) => decl.model name .declared

end ClassBridge
