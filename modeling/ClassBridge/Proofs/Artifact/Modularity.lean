import ClassBridge.Proofs.Artifact.Definitions
import ClassBridge.Proofs.Artifact.Wrapping

/-!
# Texts made of parts

Source, glue and wrappers are each written on one sheet, class after class.  The scripts of the
classes change the depth of the sheet on their way, but all of them end at the margin, so that the
text is a head, a part for each class and a tail (`modular_renderers`).

**Parts.**  The part of a class is what its script writes on a sheet of its own.  It depends on the
prefix and on the class alone, and so no class has a say in what is written for another one
(`Modular.between`).  Only the head of the glue looks at all classes, for what has to be imported.

**Declared classes.**  The wrappers are written for containers only.  A declared class may as well
be said to have a wrapper without any text (`Wrapper.join_containers`).
-/

namespace ClassBridge.Artifact

/-- What a script for classes writes for one class, on a sheet of its own. -/
def partOf (script : String → ClassModel → Script) (symbolPrefix : String) (c : ClassModel) :
    String :=
  (script symbolPrefix c).write indent

/-- A text is put together from a head, what a script writes for each class in the order of the
model, and a tail. -/
structure Modular (render head : Model → String) (script : String → ClassModel → Script)
    (tail : String) : Prop where
  render_eq : ∀ model, render model
    = head model ++ String.join (model.classes.map (partOf script model.settings.symbolPrefix))
      ++ tail
  /-- At the margin of any sheet the script adds the same text, and it ends at the margin. -/
  returns : ∀ symbolPrefix c text,
    (⟨indent, 0, text⟩ : Sheet).run (script symbolPrefix c)
      = ⟨indent, 0, text ++ partOf script symbolPrefix c⟩
  /-- What stands above and below the parts of some classes is the same, whether there are other
  classes in their place or none. -/
  between : ∀ (settings : Settings) (above below : List ClassModel),
    ∃ textAbove textBelow : String, ∀ classes : List ClassModel,
      render ⟨settings, above ++ classes ++ below⟩
        = head ⟨settings, above ++ classes ++ below⟩
          ++ (textAbove ++ String.join (classes.map (partOf script settings.symbolPrefix))
            ++ textBelow)

/-- It is enough that the scripts of all classes end at the margin. -/
lemma modular_of_render_eq {render head : Model → String}
    {script : String → ClassModel → Script} {tail : String}
    (hmargin : ∀ symbolPrefix c, (script symbolPrefix c).depthAfter 0 = 0)
    (hrender : ∀ model, render model
      = head model ++ String.join (model.classes.map (partOf script model.settings.symbolPrefix))
        ++ tail) :
    Modular render head script tail where
  render_eq := hrender
  returns symbolPrefix c text := by
    rw [Sheet.run_eq, hmargin, partOf, Script.write_eq]
  between settings above below := by
    refine ⟨String.join (above.map (partOf script settings.symbolPrefix)),
      String.join (below.map (partOf script settings.symbolPrefix)) ++ tail, fun classes => ?_⟩
    rw [hrender]
    simp only [List.map_append, String.join_append, String.append_assoc]

lemma Source.depthAfter_classScript (symbolPrefix : String) (c : ClassModel) :
    (classScript symbolPrefix c).depthAfter 0 = 0 :=
  Script.depthAfter_of_isStructured
    (Script.isStructured_all (isStructured_definitions symbolPrefix c)) 0

lemma Glue.depthAfter_classScript (symbolPrefix : String) (c : ClassModel) :
    (classScript symbolPrefix c).depthAfter 0 = 0 :=
  Script.depthAfter_of_isStructured (isStructured_classScript symbolPrefix c) 0

/-! ## Declared classes have no wrappers -/

/-- Items without a text may be left out. -/
lemma join_filter {α : Type} {keep : α → Bool} {text : α → String}
    (h : ∀ a, keep a = false → text a = "") (items : List α) :
    String.join ((items.filter keep).map text) = String.join (items.map text) := by
  induction items with
  | nil => rfl
  | cons a items ih =>
      cases hkeep : keep a with
      | false =>
          rw [List.filter_cons_of_neg (by simp [hkeep]), List.map_cons, String.join_cons, h a hkeep,
            String.empty_append, ih]
      | true =>
          rw [List.filter_cons_of_pos hkeep, List.map_cons, List.map_cons, String.join_cons,
            String.join_cons, ih]

namespace Wrapper

lemma part_of_declared {c : ClassModel} (h : c.origin = .declared) (symbolPrefix : String) :
    part symbolPrefix c = "" := by
  have hscript : classScript symbolPrefix c = .skip := by rw [classScript, h]
  rw [part, hscript]
  rfl

/-- The wrappers of all containers are those of all classes. -/
lemma join_containers (symbolPrefix : String) (model : Model) :
    String.join (model.containers.map (part symbolPrefix))
      = String.join (model.classes.map (part symbolPrefix)) := by
  refine join_filter (fun c hdeclared => part_of_declared ?_ symbolPrefix) model.classes
  unfold ClassModel.isContainer at hdeclared
  cases horigin : c.origin with
  | declared => rfl
  | container native foreign => simp [horigin] at hdeclared

end Wrapper

/-- **Modular texts.**  Source, glue and wrappers of a model are each a head, a part for each class
in the order of the model, and a tail that is always the same.  The head is made from the settings,
and in the glue also from whether some class asks for an import; the part is made from the prefix
and the class, and a declared class has nothing in the wrappers. -/
theorem modular_renderers :
    Modular Source.render (fun model => (Source.head model.settings).write indent)
        Source.classScript "\x7d\n"
      ∧ Modular Glue.render
          (fun model => (Glue.head model.settings (Glue.needsOrdering model)
            (Glue.needsUninit model)).write indent)
          Glue.classScript ""
      ∧ Modular Wrapper.render (fun model => (Wrapper.head model.settings).write indent)
          Wrapper.classScript ""
      ∧ ∀ symbolPrefix (c : ClassModel), c.origin = .declared →
          partOf Wrapper.classScript symbolPrefix c = "" := by
  refine ⟨?_, ?_, ?_, fun symbolPrefix c h => Wrapper.part_of_declared h symbolPrefix⟩
  · exact modular_of_render_eq Source.depthAfter_classScript Source.render_eq
  · refine modular_of_render_eq Glue.depthAfter_classScript fun model => ?_
    rw [Glue.render_eq, String.append_empty]
    rfl
  · refine modular_of_render_eq Wrapper.depthAfter_classScript fun model => ?_
    rw [Wrapper.render_eq, Wrapper.join_containers, String.append_empty]
    rfl

/-- A declared class that is constructed by value. -/
def constructedClass : ClassModel := ClassDecl.model "Url" { defaultCtor := .generated } .declared

theorem modular_constructedClass :
    constructedClass.origin = .declared
      ∧ partOf Wrapper.classScript "ffi" constructedClass = ""
      ∧ ∃ textAbove textBelow : String, ∀ classes : List ClassModel,
        Source.render ⟨{ symbolPrefix := "ffi" }, [constructedClass] ++ classes ++ []⟩
          = (Source.head { symbolPrefix := "ffi" }).write indent
            ++ (textAbove ++ String.join (classes.map (partOf Source.classScript "ffi"))
              ++ textBelow) :=
  ⟨rfl, modular_renderers.2.2.2 "ffi" constructedClass rfl,
    modular_renderers.1.between { symbolPrefix := "ffi" } [constructedClass] []⟩

end ClassBridge.Artifact
