import ClassBridge.Abi
import ClassBridge.Artifact.Kind
import ClassBridge.Artifact.Style

/-!
# The foreign glue

The glue gives every bridged type the usual traits of the foreign side.  An operation whose C
function is exported calls that function; an operation marked trivial works on the bytes of the
object and does not cross the boundary.
-/

namespace ClassBridge.Artifact

/-- The import of the raw bindings. -/
def importRaw (settings : Settings) : String := "use super::" ++ settings.rawModule ++ "::*;"

/-- The call of a C function, or another step that the foreign compiler cannot check. -/
def unchecked (code : String) : String := "unsafe " ++ inBraces code

namespace Glue

/-- A function of an implementation. -/
def inlined (header : String) (body : Script) : Script :=
  .seq (.line "#[inline]") (braced header body)

/-- An implementation, after an empty line. -/
def implementation (header : String) (body : Script) : Script :=
  .seq .blank (braced ("impl " ++ header) body)

/-- Fills new memory by a C function. -/
def filled (call : String) : List Script := [
  .line "let mut ret = MaybeUninit::uninit();",
  .line call,
  .line "ret.assume_init()"]

/-- The body of a constructor by value, if there is one. -/
def valueConstructor? (c : ClassModel) (abi : List AbiFunction) : Option Script :=
  match symbolFor? abi .init with
  | some symbol => some (braced "unsafe" (Script.all (filled (symbol ++ "(ret.as_mut_ptr());"))))
  | none =>
    if c.defaultCtor == .trivial && !c.managedObject then
      some (.line (unchecked "std::mem::zeroed()"))
    else none

/-- The constructor of a class. -/
def constructorScript (c : ClassModel) (abi : List AbiFunction) : Script :=
  match symbolFor? abi .new with
  | some symbol =>
    implementation c.name (inlined "pub fn new() -> *mut Self" (.line (unchecked (symbol ++ "()"))))
  | none =>
    match valueConstructor? c abi with
    | none => .skip
    | some body =>
      .seq (implementation c.name (inlined "pub fn new() -> Self" body))
        (implementation ("Default for " ++ c.name)
          (inlined "fn default() -> Self" (.line (c.name ++ "::new()"))))

/-- The body of the copy of a class. -/
def copyBody (symbol? : Option String) : Script :=
  match symbol? with
  | some symbol => braced "unsafe" (Script.all (filled (symbol ++ "(self, ret.as_mut_ptr());")))
  | none => .line (unchecked "std::ptr::read(self)")

/-- The copy of a class, and the assignment if there is one. -/
def cloneScript (c : ClassModel) (abi : List AbiFunction) : Script :=
  let copy? := symbolFor? abi .clone
  if copy?.isNone && c.copyCtor != .trivial then .skip
  else
    implementation ("Clone for " ++ c.name) (.seq
      (inlined "fn clone(&self) -> Self" (copyBody copy?))
      (match symbolFor? abi .assign with
        | none => .skip
        | some symbol =>
          .seq .blank (inlined "fn clone_from(&mut self, source: &Self)"
            (.line (unchecked (symbol ++ "(self, source)"))))))

/-- The equality of a class. -/
def equalityScript (c : ClassModel) (abi : List AbiFunction) : Script :=
  match symbolFor? abi .equals with
  | none => .skip
  | some symbol =>
    Script.all [
      implementation ("PartialEq for " ++ c.name)
        (inlined "fn eq(&self, other: &Self) -> bool"
          (.line (unchecked (symbol ++ "(self, other)")))),
      .blank,
      .line ("impl Eq for " ++ c.name ++ " \x7b\x7d")]

/-- The order of a class. -/
def orderScript (c : ClassModel) (abi : List AbiFunction) : Script :=
  match symbolFor? abi .cmp with
  | none => .skip
  | some symbol =>
    .seq (implementation ("PartialOrd for " ++ c.name)
        (inlined "fn partial_cmp(&self, other: &Self) -> Option<Ordering>"
          (.line "Some(Ord::cmp(self, other))")))
      (implementation ("Ord for " ++ c.name)
        (inlined "fn cmp(&self, other: &Self) -> Ordering"
          (braced ("match " ++ unchecked (symbol ++ "(self, other)"))
            (Script.all [
              .line "-1 => Ordering::Less,",
              .line "0 => Ordering::Equal,",
              .line "1 => Ordering::Greater,",
              .line ("other => unreachable!(\"" ++ symbol ++ " returned \x7bother\x7d\"),")]))))

/-- The destructor of a class. -/
def dropScript (c : ClassModel) (abi : List AbiFunction) : Script :=
  match symbolFor? abi .destroy with
  | none => .skip
  | some symbol =>
    implementation ("Drop for " ++ c.name)
      (inlined "fn drop(&mut self)" (.line (unchecked (symbol ++ "(self)"))))

/-- The implementations of a class. -/
def classScript (symbolPrefix : String) (c : ClassModel) : Script :=
  let abi := c.abi symbolPrefix
  Script.all [constructorScript c abi, cloneScript c abi, equalityScript c abi, orderScript c abi,
    dropScript c abi]

/-- Whether some class is ordered. -/
def needsOrdering (model : Model) : Bool := model.classes.any (·.ord)

/-- Whether the implementations of a class use memory that is not yet filled. -/
def fillsMemory (symbolPrefix : String) (c : ClassModel) : Bool :=
  let abi := c.abi symbolPrefix
  (symbolFor? abi .init).isSome || (symbolFor? abi .clone).isSome

/-- Whether some class uses memory that is not yet filled. -/
def needsUninit (model : Model) : Bool :=
  model.classes.any (fillsMemory model.settings.symbolPrefix)

/-- Everything before the implementations. -/
def head (settings : Settings) (ordering uninit : Bool) : Script :=
  Script.all [
    banner,
    .whenever ordering (.line "use std::cmp::Ordering;"),
    .whenever uninit (.line "use std::mem::MaybeUninit;"),
    .blank,
    .line (importRaw settings)]

/-- The whole glue. -/
def script (model : Model) : Script :=
  .seq (head model.settings (needsOrdering model) (needsUninit model))
    (.each model.classes (classScript model.settings.symbolPrefix))

/-- The text of the glue. -/
def render (model : Model) : String := (script model).write indent

end Glue

end ClassBridge.Artifact

namespace ClassBridge

/-- The renderer of the foreign glue. -/
def Renderer.glue : Renderer where
  kind := .foreignGlue
  render := Artifact.Glue.render

end ClassBridge
