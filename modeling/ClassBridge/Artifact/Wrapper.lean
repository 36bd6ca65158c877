import ClassBridge.Artifact.Glue

/-!
# The container wrappers

Every container gets the interface of a slice on the foreign side.  Each wrapped operation calls
one of the six method functions of the container.
-/

namespace ClassBridge.Artifact.Wrapper

/-- The symbols of the six methods of a container. -/
structure MethodSymbols where
  size : String
  asSlice : String
  append : String
  appendList : String
  appendSlice : String
  reserve : String
  deriving DecidableEq, Repr

/-- The method symbols among exported functions; a missing one is empty. -/
def MethodSymbols.ofAbi (abi : List AbiFunction) : MethodSymbols :=
  let symbol (name : String) : String := (symbolFor? abi (.method name)).getD ""
  { size := symbol "size"
    asSlice := symbol "asSlice"
    append := symbol "append"
    appendList := symbol "appendList"
    appendSlice := symbol "appendSlice"
    reserve := symbol "reserveAdditional" }

/-- The operations on a container, in terms of its method symbols. -/
def operations (element : String) (m : MethodSymbols) : Script :=
  Script.all [
    .line "#[inline]",
    braced "pub fn len(&self) -> usize" (.line (unchecked (m.size ++ "(self) as usize"))),
    .blank,
    .line "#[inline]",
    braced "pub fn is_empty(&self) -> bool" (.line "self.len() == 0"),
    .blank,
    braced ("pub fn as_slice(&self) -> &[" ++ element ++ "]")
      (braced "unsafe" (Script.all [
        .line "let mut size = 0;",
        .line ("let ptr = " ++ m.asSlice ++ "(self, &mut size);"),
        .block "if ptr.is_null() \x7b" "\x7d else \x7b" (.line "&[]"),
        .nested (.line
          ("std::slice::from_raw_parts(ptr as *const " ++ element ++ ", size as usize)")),
        .line "\x7d"])),
    .blank,
    .line "#[inline]",
    braced ("pub fn push(&mut self, item: &" ++ element ++ ")")
      (.line (unchecked (m.append ++ "(self, item as *const " ++ element ++ " as *const _)"))),
    .blank,
    braced ("pub fn extend_from_slice(&mut self, items: &[" ++ element ++ "])")
      (.line (unchecked (m.appendSlice ++ "(self, items.as_ptr() as *const _, items.len() as _)"))),
    .blank,
    .line "#[inline]",
    braced "pub fn append(&mut self, other: &Self)"
      (.line (unchecked (m.appendList ++ "(self, other)"))),
    .blank,
    .line "#[inline]",
    braced "pub fn reserve(&mut self, additional: usize)"
      (.line (unchecked (m.reserve ++ "(self, additional as _)")))]

/-- The wrapper of a container. -/
def containerScript (name element : String) (m : MethodSymbols) : Script :=
  Script.all [
    .blank,
    braced ("impl " ++ name) (operations element m),
    .blank,
    braced ("impl Deref for " ++ name) (Script.all [
      .line ("type Target = [" ++ element ++ "];"),
      .blank,
      .line "#[inline]",
      braced "fn deref(&self) -> &Self::Target" (.line "self.as_slice()")]),
    .blank,
    braced ("impl From<&[" ++ element ++ "]> for " ++ name)
      (braced ("fn from(items: &[" ++ element ++ "]) -> Self") (Script.all [
        .line "let mut list = Self::new();",
        .line "list.extend_from_slice(items);",
        .line "list"]))]

/-- What is written for a class: a container has a wrapper, a declared class has none. -/
def classScript (symbolPrefix : String) (c : ClassModel) : Script :=
  match c.origin with
  | .declared => .skip
  | .container _ foreign => containerScript c.name foreign (.ofAbi (c.abi symbolPrefix))

/-- Everything before the wrappers. -/
def head (settings : Settings) : Script :=
  Script.all [
    banner,
    .line "use std::ops::Deref;",
    .blank,
    .line (importRaw settings)]

/-- All wrappers. -/
def script (model : Model) : Script :=
  .seq (head model.settings)
    (.each model.containers (classScript model.settings.symbolPrefix))

/-- The text of the wrappers. -/
def render (model : Model) : String := (script model).write indent

end ClassBridge.Artifact.Wrapper

namespace ClassBridge

/-- The renderer of the container wrappers. -/
def Renderer.wrapper : Renderer where
  kind := .containerWrapper
  render := Artifact.Wrapper.render

end ClassBridge
