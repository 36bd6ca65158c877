import ClassBridge.Proofs.Artifact.Listings
import ClassBridge.Proofs.Sheet.Pasting

/-!
# What the source defines

**The text.**  Below its opening the source has a section for each class, and in the section a
definition for each function that the class exports: the prototype, rows between braces, and nothing
else.  The rows are all that the scripts decide (`render_eq_sourceOf`).

**The rows.**  Each of them is one line, indented or empty, so the brace at the margin that follows
them closes the definition.  The rows of a method are found by its name.  Methods of other classes
are not looked at, and in its own class a method shares its name with no other, so they are pasted
from the body that the schema has for this very method (`fills_bodyRows`).
-/

namespace ClassBridge

open Text

/-! ## Bodies of a schema -/

/-- The bodies of a model, by class and by method. -/
def Model.bodies (model : Model) : List (String × List (String × String)) :=
  model.classes.map fun c => (c.name, c.methods.map fun m => (m.name, m.body))

/-- The bodies of declared methods. -/
def MethodDecl.bodies (methods : List (String × MethodDecl)) : List (String × String) :=
  methods.map fun method => (method.1, method.2.body)

/-- The bodies of a manifest, by class and by method: those that it declares, and then those of the
methods that every container has. -/
def Manifest.bodies (manifest : Manifest) : List (String × List (String × String)) :=
  (manifest.classes.map fun entry => (entry.1, MethodDecl.bodies entry.2.methods))
    ++ manifest.containers.map fun entry =>
      (entry.1, MethodDecl.bodies (Instantiation.methods entry.1 entry.2.native))

lemma ClassDecl.bodies_model (decl : ClassDecl) (name : String) (origin : Origin) :
    ((decl.model name origin).methods.map fun m => (m.name, m.body))
      = MethodDecl.bodies decl.methods := by
  rw [model, List.map_map]
  rfl

/-- No body is changed on its way into the model. -/
lemma Manifest.bodies_ofManifest {manifest : Manifest}
    (hfree : manifest.freeContainers = manifest.containers) :
    (Model.ofManifest manifest).bodies = manifest.bodies := by
  rw [Model.bodies, Model.ofManifest, List.map_append, Model.declared, expansion, hfree, bodies,
    List.map_map, List.map_map]
  congr 1
  refine List.map_congr_left fun entry _ => ?_
  exact congrArg (Prod.mk entry.1) (ClassDecl.bodies_model _ _ _)

namespace Artifact.Source

/-! ## The text -/

/-- What stands above the sections of the classes. -/
def opening (settings : Settings) : String :=
  closeRows ["// GENERATED -- DO NOT EDIT!!", "#include \"" ++ settings.header ++ "\"", "",
    "#include <new>", "#include <utility>", "", linkageMark, ""]

/-- What stands above the definitions of a class: its name, and checks if it has a layout. -/
def heading (c : ClassModel) : String := closeRows (["// " ++ c.name] ++ layoutRows c ++ [""])

/-- The definition of a function with rows between its braces. -/
def definition (f : AbiFunction) (rows : List String) : String :=
  f.prototype ++ " \x7b\n" ++ closeRows rows ++ "\x7d\n\n"

/-- The section of a class with rows for each function. -/
def sectionOf (symbolPrefix : String) (c : ClassModel) (rows : AbiFunction → List String) :
    String :=
  heading c ++ String.join ((c.abi symbolPrefix).map fun f => definition f (rows f))

/-- The source of a model with rows for each function of each class. -/
def sourceOf (model : Model) (rows : ClassModel → AbiFunction → List String) : String :=
  opening model.settings
    ++ String.join (model.classes.map fun c => sectionOf model.settings.symbolPrefix c (rows c))
    ++ "\x7d\n"

/-- What is written for a class. -/
def part (symbolPrefix : String) (c : ClassModel) : String :=
  (classScript symbolPrefix c).write indent

/-- The source consists of a head, of one part for each class, and of a brace. -/
lemma render_eq (model : Model) : render model
    = (head model.settings).write indent
      ++ String.join (model.classes.map (part model.settings.symbolPrefix)) ++ "\x7d\n" := by
  have hhead : (head model.settings).isStructured = true := rfl
  have hclasses : ∀ c ∈ model.classes,
      (classScript model.settings.symbolPrefix c).isStructured = true :=
    fun c _ => Script.isStructured_all (isStructured_definitions _ c)
  show (Script.seq (head model.settings) (Script.seq
    (.each model.classes (classScript model.settings.symbolPrefix))
    (Script.all [.line "\x7d"]))).write indent = _
  rw [Script.write_seq hhead, Script.write_seq (Script.isStructured_each hclasses),
    Script.write_each hclasses, String.append_assoc]
  rfl

/-- The rows that are written between the braces of a function. -/
def bodyRows (c : ClassModel) (f : AbiFunction) : List String := (body c f.op).rows indent 1

lemma closeRows_functionRows (c : ClassModel) (f : AbiFunction) :
    closeRows (functionRows c f) = definition f (bodyRows c f) := by
  simp [functionRows, definition, bodyRows, String.append_assoc]

lemma part_eq (symbolPrefix : String) (c : ClassModel) :
    part symbolPrefix c = sectionOf symbolPrefix c (bodyRows c) := by
  have hdefinitions : ((c.abi symbolPrefix).map fun f => closeRows (functionRows c f))
      = (c.abi symbolPrefix).map fun f => definition f (bodyRows c f) :=
    List.map_congr_left fun f _ => closeRows_functionRows c f
  rw [part, Script.write_eq, rows_classScript, classRows, closeRows_append, closeRows_flatMap,
    hdefinitions, sectionOf, heading]

lemma render_eq_sourceOf (model : Model) : render model = sourceOf model bodyRows := by
  have hhead : (head model.settings).write indent = opening model.settings := by
    rw [Script.write_eq]
    rfl
  have hparts : model.classes.map (part model.settings.symbolPrefix)
      = model.classes.map fun c => sectionOf model.settings.symbolPrefix c (bodyRows c) :=
    List.map_congr_left fun c _ => part_eq _ c
  rw [render_eq, hhead, hparts, sourceOf]

/-! ## The rows -/

/-- Rows that the functions of a class may have between their braces: lines below the margin, and
for a method its own body. -/
structure Fills (symbolPrefix : String) (c : ClassModel) (rows : AbiFunction → List String) :
    Prop where
  /-- No row can be taken for the brace that closes the definition. -/
  inside : ∀ f ∈ c.abi symbolPrefix, ∀ row ∈ rows f, FeedFree row ∧ Script.IsIndented indent row
  pasted : ∀ m ∈ c.methods,
    Script.IsPasted indent m.body (rows (c.methodFunction symbolPrefix m))

/-- The rows of a method are its body, since its name leads to it. -/
lemma bodyRows_methodFunction {c : ClassModel} (h : c.Named) {m : MethodModel}
    (hm : m ∈ c.methods) (symbolPrefix : String) :
    bodyRows c (c.methodFunction symbolPrefix m) = (Script.lines m.body).rows indent 1 := by
  rw [bodyRows, ClassModel.methodFunction, body, h.method?_eq_some hm]

lemma fills_bodyRows {c : ClassModel} (h : c.Named) (symbolPrefix : String) :
    Fills symbolPrefix c (bodyRows c) where
  inside f _ row hrow :=
    ⟨Script.feedFree_of_mem_rows (isFeedFree_body h f.op) hrow,
      Script.indented_of_mem_rows (isStructured_body c f.op) hrow⟩
  pasted m hm := by
    rw [bodyRows_methodFunction h hm]
    exact Script.isPasted_rows indent m.body

/-- **Definitions in the source.**  The source of a compiled manifest has for each class, in the
order of the model, exactly the functions of its interface, in their order, each with its prototype
and with rows between its braces.  The rows lie below the margin.  Those of a method are pasted from
its body, and the bodies are those of the manifest, method by method: without one level of
indentation the rows that are not blank are the lines of the body, and all others stand for lines of
blanks. -/
theorem defines_of_compile {manifest : Manifest} (hloaded : manifest.Loaded)
    {compiled : Compilation} (hcompiled : manifest.compile = .ok compiled) :
    ∃ model, compiled.model = some model
      ∧ model.bodies = manifest.bodies
      ∧ ∃ rows, render model = sourceOf model rows
        ∧ ∀ c ∈ model.classes, Fills model.settings.symbolPrefix c (rows c) := by
  have hfree := Manifest.freeContainers_of_compile hcompiled
  refine ⟨Model.ofManifest manifest, Manifest.model_of_compile hcompiled,
    Manifest.bodies_ofManifest hfree, bodyRows, render_eq_sourceOf _, ?_⟩
  intro c hc
  exact fills_bodyRows (named_of_mem_classes hloaded hc) _

/-- Two classes with a method of one name, one of them without a destructor, and bodies that differ
in nothing but the ends of their lines. -/
def namesakesManifest : Manifest where
  classes := [
    ("Url", { dtor := .trivial, methods := [("clear", { body := "a();\n \t\n  b();\r\n\n" })] }),
    ("Page", { methods := [("clear", { body := "a();\n\u3000\n  b();" })] })]

theorem defines_namesakesManifest :
    ∃ compiled model, namesakesManifest.compile = .ok compiled ∧ compiled.model = some model
      ∧ (∃ rows, render model = sourceOf model rows
        ∧ ∀ c ∈ model.classes, Fills "ffi" c (rows c))
      ∧ render model = opening model.settings
        ++ "// Url\n\nvoid ffi_Url_clear(Url* self) \x7b\n    a();\n\n      b();\r\n\n\x7d\n\n"
        ++ "// Page\n\nvoid ffi_Page_destroy(Page* self) \x7b\n    self->~Page();\n\x7d\n\n"
        ++ "void ffi_Page_clear(Page* self) \x7b\n    a();\n\n      b();\n\x7d\n\n\x7d\n" := by
  have hloaded : namesakesManifest.Loaded := by decide
  have hcompiled : namesakesManifest.compile = .ok namesakesManifest.compiled := rfl
  obtain ⟨model, hmodel, -, hrows⟩ := defines_of_compile hloaded hcompiled
  refine ⟨_, model, hcompiled, hmodel, ?_, ?_⟩
  · cases hmodel
    exact hrows
  · cases hmodel
    decide +kernel

end Artifact.Source

end ClassBridge
