import ClassBridge.Abi
import ClassBridge.Artifact.Kind
import ClassBridge.Artifact.Style

/-!
# The native source

The source defines every function that the header declares, and checks that each class has the
size and the alignment of the struct that stands in for it.  The body of a method is pasted as the
schema has it.
-/

namespace ClassBridge.Artifact.Source

/-- The check of one measure of a class against its stand-in. -/
def measureCheck (c : ClassModel) (operator label : String) : String :=
  "static_assert(" ++ operator ++ "(" ++ c.name ++ ") == " ++ operator ++ "(" ++ standIn c
    ++ "), \"" ++ label ++ " of " ++ c.name ++ " incompatible\");"

/-- The checks of a class against its stand-in. -/
def layoutChecks (c : ClassModel) : Script :=
  .seq (.line (measureCheck c "alignof" "Alignment")) (.line (measureCheck c "sizeof" "Size"))

/-- The body of an exported function. -/
def body (c : ClassModel) : AbiOp → Script
  | .init => .line ("new (self) " ++ c.name ++ "();")
  | .new => .line ("return new " ++ c.name ++ "();")
  | .destroy => .line ("self->~" ++ c.name ++ "();")
  | .clone => .line ("new (new_) " ++ c.name ++ "(*self);")
  | .assign => .line "*self = *other;"
  | .move => .line ("new (dest) " ++ c.name ++ "(std::move(*self));")
  | .equals => .line "return *self == *other;"
  | .cmp =>
    .seq (braced "if (*self < *other)" (.line "return -1;"))
      (.line "return *other < *self ? 1 : 0;")
  | .method name =>
    match c.method? name with
    | some m => .lines m.body
    | none => .skip

/-- The definition of an exported function. -/
def functionScript (c : ClassModel) (f : AbiFunction) : Script :=
  .seq (braced f.prototype (body c f.op)) .blank

/-- The definitions of a class. -/
def classScript (symbolPrefix : String) (c : ClassModel) : Script :=
  Script.all [
    .comment c.name,
    .whenever c.hasLayout (layoutChecks c),
    .blank,
    .each (c.abi symbolPrefix) (functionScript c)]

/-- Everything before the definitions. -/
def head (settings : Settings) : Script :=
  Script.all [
    banner,
    .line ("#include \"" ++ settings.header ++ "\""),
    .blank,
    .line "#include <new>",
    .line "#include <utility>",
    .blank,
    .line "extern \"C\" \x7b",
    .blank]

/-- The whole source. -/
def script (model : Model) : Script :=
  Script.all [
    head model.settings,
    .each model.classes (classScript model.settings.symbolPrefix),
    .line "\x7d"]

/-- The text of the source. -/
def render (model : Model) : String := (script model).write indent

end ClassBridge.Artifact.Source

namespace ClassBridge

/-- The renderer of the native source. -/
def Renderer.source : Renderer where
  kind := .nativeSource
  render := Artifact.Source.render

end ClassBridge
