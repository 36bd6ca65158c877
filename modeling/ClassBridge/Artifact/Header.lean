import ClassBridge.Abi
import ClassBridge.Artifact.Kind
import ClassBridge.Artifact.Style

/-!
# The native header

The header has two faces.  The translator sees, for every class with known fields, a struct of the
same layout under the name of the class; the native compiler sees the real includes.  Both see the
declarations of the exported C functions.
-/

namespace ClassBridge.Artifact.Header

/-- The struct that stands in for a class. -/
def standInScript (c : ClassModel) : Script :=
  .seq (.block ("struct " ++ standIn c ++ " \x7b") "\x7d;"
    (.each c.layout fun (field, type) => .line (type ++ " " ++ field ++ ";")))
    .blank

/-- What the translator sees of a class. -/
def translatorLine (c : ClassModel) : String :=
  if c.hasLayout then "typedef " ++ standIn c ++ " " ++ c.name ++ ";"
  else "class " ++ c.name ++ ";"

/-- The list without the items that stood in it before. -/
def firstOccurrences (items : List String) : List String :=
  items.foldl (fun seen item => if seen.contains item then seen else seen ++ [item]) []

/-- The includes of the classes, then the extra ones. -/
def includes (model : Model) : List String :=
  firstOccurrences (model.classes.map (·.includeName) ++ model.settings.includes)

/-- The declarations of the functions of a class. -/
def classScript (symbolPrefix : String) (c : ClassModel) : Script :=
  Script.all [
    .comment c.name,
    .each (c.abi symbolPrefix) fun f => .line (f.prototype ++ ";"),
    .blank]

/-- What only one of the two readers of the header sees. -/
def faces (model : Model) : Script :=
  Script.all [
    .line "#ifdef BINDGEN",
    .each model.classes fun c => .line (translatorLine c),
    .line "#else",
    .each (includes model) fun name => .line ("#include <" ++ name ++ ">"),
    .each (model.classes.filter ClassModel.isRenamed) fun c =>
      .line ("typedef " ++ c.nativeName ++ " " ++ c.name ++ ";"),
    .line "#endif",
    .blank]

/-- Everything before the declarations of the exported functions. -/
def head (model : Model) : Script :=
  Script.all [
    banner,
    .line "#pragma once",
    .blank,
    match model.settings.prelude with
      | some prelude => .seq (.lines prelude) .blank
      | none => .skip,
    .each (model.classes.filter ClassModel.hasLayout) standInScript,
    faces model]

/-- The whole header. -/
def script (model : Model) : Script :=
  Script.all [
    head model,
    .line "extern \"C\" \x7b",
    .blank,
    .each model.classes (classScript model.settings.symbolPrefix),
    .line "\x7d"]

/-- The text of the header. -/
def render (model : Model) : String := (script model).write indent

end ClassBridge.Artifact.Header

namespace ClassBridge

/-- The renderer of the native header. -/
def Renderer.header : Renderer where
  kind := .nativeHeader
  render := Artifact.Header.render

end ClassBridge
