import ClassBridge.Pipeline.Phases
import ClassBridge.Proofs.Interface.Symbols
import ClassBridge.Proofs.Model.Names
import Mathlib.Data.List.Forall2

/-!
# The model after expansion

Once the declared classes are resolved and the containers are added, the model is orderly
(`Model.Orderly`), whether containers collide with declared classes or not.

**Order.**  The classes are those of the schema and then the containers that share their name with
none of them, each with its layout, its methods and their parameters as the schema lists them.

**Names.**  No name is taken twice: neither among classes, nor among the fields, the methods and the
parameters of one of them.  So what is looked up by name is what the name belongs to.
-/

namespace ClassBridge

/-- What one class of a model is made from. -/
structure ClassSource where
  name : String
  decl : ClassDecl
  origin : Origin

namespace Manifest

/-- What a container is made from. -/
def containerSource (manifest : Manifest) (entry : String × Instantiation) : ClassSource where
  name := entry.1
  decl := entry.2.classDecl entry.1 manifest.container
  origin := .container entry.2.native entry.2.foreign

/-- What the classes of the whole model are made from: the declared classes, then the containers
that have none of their names. -/
def sources (manifest : Manifest) : List ClassSource :=
  manifest.classes.map (fun entry => ⟨entry.1, entry.2, .declared⟩)
    ++ (manifest.containers.filter fun entry => entry.1 ∉ manifest.classes.map Prod.fst).map
      manifest.containerSource

end Manifest

namespace ClassModel

/-- The class has what its source lists, in the same order. -/
structure MadeFrom (source : ClassSource) (c : ClassModel) : Prop where
  name : c.name = source.name
  origin : c.origin = source.origin
  layout : c.layout = source.decl.layout
  methods : c.methods.map (·.name) = source.decl.methods.map Prod.fst
  params : c.methods.map (fun m => m.params.map (·.name))
    = source.decl.methods.map fun method => method.2.params.map Prod.fst
  dtor : c.dtor = source.decl.dtor
  managed : c.managedObject = source.decl.managedObject

/-- No name inside a class is taken twice. -/
structure Distinct (c : ClassModel) : Prop where
  layout : (c.layout.map Prod.fst).Nodup
  methods : (c.methods.map (·.name)).Nodup
  params : ∀ m ∈ c.methods, (m.params.map (·.name)).Nodup

end ClassModel

/-- What can be relied on in the whole model of a manifest. -/
structure Model.Orderly (manifest : Manifest) (model : Model) : Prop where
  classes : List.Forall₂ ClassModel.MadeFrom manifest.sources model.classes
  names : model.classes.map (·.name) = manifest.classes.map Prod.fst
    ++ (manifest.containers.map Prod.fst).filter fun name => name ∉ manifest.classes.map Prod.fst
  distinct : (model.classes.map (·.name)).Nodup
  found : ∀ name c, model.class? name = some c ↔ c ∈ model.classes ∧ c.name = name
  missing : ∀ name, model.class? name = none ↔ name ∉ model.classes.map (·.name)
  containers : model.containers.map (fun c => (c.name, c.origin))
    = (manifest.containers.filter fun entry => entry.1 ∉ manifest.classes.map Prod.fst).map
      fun entry => (entry.1, .container entry.2.native entry.2.foreign)
  inside : ∀ c ∈ model.classes, c.Distinct
  destructors : ∀ c ∈ model.classes,
    c.generateDtor = true ↔ c.managedObject = false ∧ c.dtor ≠ .trivial
  managed : ∀ c ∈ model.classes, c.managedObject = true →
    ∀ symbolPrefix, ∀ f ∈ c.abi symbolPrefix, f.op ≠ .destroy

/-! ## Classes and their sources -/

section Sources

variable {manifest : Manifest}

lemma Manifest.freeContainers_eq (manifest : Manifest) :
    manifest.freeContainers
      = manifest.containers.filter fun entry => entry.1 ∉ manifest.classes.map Prod.fst := by
  refine List.filter_congr fun entry _ => ?_
  rw [Bool.eq_iff_iff, Bool.not_eq_true', decide_eq_true_iff, ← Manifest.declares_eq_true_iff,
    Bool.not_eq_true]

/-- The classes of the whole model, each from its source. -/
lemma classes_ofManifest (manifest : Manifest) :
    (Model.ofManifest manifest).classes
      = manifest.sources.map fun source => source.decl.model source.name source.origin := by
  rw [Manifest.sources, ← Manifest.freeContainers_eq, List.map_append, List.map_map, List.map_map]
  rfl

/-- Resolving defaults keeps names and their order. -/
lemma ClassModel.madeFrom_model (source : ClassSource) :
    MadeFrom source (source.decl.model source.name source.origin) where
  name := rfl
  origin := rfl
  layout := rfl
  methods := by
    rw [ClassDecl.model, List.map_map]
    rfl
  params := by
    rw [ClassDecl.model, List.map_map]
    refine List.map_congr_left fun method _ => ?_
    show (method.2.model method.1).params.map (·.name) = _
    rw [MethodDecl.model, List.map_map]
    rfl
  dtor := rfl
  managed := rfl

lemma nodup_layout_of_mem_classes (h : manifest.Loaded) {c : ClassModel}
    (hc : c ∈ (Model.ofManifest manifest).classes) : (c.layout.map Prod.fst).Nodup := by
  rcases mem_classes_ofManifest.mp hc with ⟨entry, hentry, rfl⟩ | ⟨entry, -, rfl⟩
  · exact h.layoutKeys entry hentry
  · exact List.nodup_singleton _

lemma ClassModel.distinct_of_mem_classes (h : manifest.Loaded) {c : ClassModel}
    (hc : c ∈ (Model.ofManifest manifest).classes) : c.Distinct where
  layout := nodup_layout_of_mem_classes h hc
  methods := (named_of_mem_classes h hc).distinct
  params _ hm := nodup_params_of_mem_classes h hc hm

end Sources

/-! ## Containers -/

section Containers

variable (manifest : Manifest)

lemma Manifest.map_fst_freeContainers : manifest.freeContainers.map Prod.fst
    = (manifest.containers.map Prod.fst).filter
      fun name => name ∉ manifest.classes.map Prod.fst := by
  rw [Manifest.freeContainers_eq, List.filter_map]
  rfl

/-- The declared classes are no containers, and all that is added to them are. -/
lemma containers_ofManifest : (Model.ofManifest manifest).containers = manifest.expansion := by
  have hdeclared : (Model.declared manifest).classes.filter ClassModel.isContainer = [] := by
    refine List.filter_eq_nil_iff.mpr fun c hc => ?_
    obtain ⟨entry, -, rfl⟩ := List.mem_map.mp hc
    simp [ClassModel.isContainer, ClassDecl.model]
  have hadded : manifest.expansion.filter ClassModel.isContainer = manifest.expansion := by
    refine List.filter_eq_self.mpr fun c hc => ?_
    obtain ⟨entry, -, rfl⟩ := List.mem_map.mp hc
    rfl
  rw [Model.containers, Model.ofManifest, List.filter_append, hdeclared, hadded, List.nil_append]

end Containers

/-! ## The whole model -/

/-- The whole model of a loaded manifest is orderly. -/
lemma orderly_ofManifest {manifest : Manifest} (h : manifest.Loaded) :
    (Model.ofManifest manifest).Orderly manifest where
  classes := by
    rw [classes_ofManifest, List.forall₂_map_right_iff]
    exact List.forall₂_same.mpr fun source _ => ClassModel.madeFrom_model source
  names := by rw [names_ofManifest, Manifest.map_fst_freeContainers]
  distinct := nodup_names_ofManifest h
  found name c := Model.class?_eq_some_iff (nodup_names_ofManifest h)
  missing name := by
    rw [Model.class?, List.find?_eq_none]
    simp
  containers := by
    rw [containers_ofManifest, Manifest.expansion, ← Manifest.freeContainers_eq, List.map_map]
    rfl
  inside c hc := ClassModel.distinct_of_mem_classes h hc
  destructors c hc := generateDtor_iff hc
  managed := by
    intro c hc hmanaged symbolPrefix f hf hdestroy
    have hprovides := (ClassModel.exports_iff symbolPrefix (by decide)).mp ⟨f, hf, hdestroy⟩
    rw [((generateDtor_iff hc).mp hprovides).1] at hmanaged
    exact Bool.noConfusion hmanaged

/-- **The model after expansion.**  Resolving the declared classes of a loaded manifest and adding
its containers never fails, and the model that is there afterwards is orderly, collisions or not. -/
theorem orderly_of_expand {c : Compilation} (h : c.manifest.Loaded) :
    ∃ model, (CompilationStep.normalize >>= fun _ => CompilationStep.expand) c
        = .ok () { c with model := some model,
                          diagnostics := c.diagnostics ++ c.manifest.collisions }
      ∧ model.Orderly c.manifest :=
  ⟨Model.ofManifest c.manifest, rfl, orderly_ofManifest h⟩

/-- Containers that collide stand between others that do not, and a managed class asks for a
destructor. -/
def crowdedManifest : Manifest where
  classes := [
    ("Page", {
      managedObject := true, layout := [("width", "int"), ("height", "int")]
      methods := [("resize", { params := [("width", "int"), ("height", "int")] }), ("hide", {})] }),
    ("Url", { dtor := .trivial })]
  containers := [
    ("PageList", { native := "Page", foreign := "Page" }),
    ("Url", { native := "int", foreign := "i32" }),
    ("UrlList", { native := "Url", foreign := "Url" }),
    ("Page", { native := "int", foreign := "i32" })]

theorem orderly_crowdedManifest : crowdedManifest.Loaded
    ∧ ∃ model, (CompilationStep.normalize >>= fun _ => CompilationStep.expand)
          { manifest := crowdedManifest }
        = .ok () ⟨crowdedManifest, some model, crowdedManifest.collisions⟩
      ∧ model.Orderly crowdedManifest
      ∧ model.classes.map (·.name) = ["Page", "Url", "PageList", "UrlList"]
      ∧ model.containers.map (·.name) = ["PageList", "UrlList"]
      ∧ model.classes.map (·.generateDtor) = [false, false, true, true] := by
  have hloaded : crowdedManifest.Loaded := by decide
  obtain ⟨model, hrun, horderly⟩ :=
    orderly_of_expand (c := { manifest := crowdedManifest }) hloaded
  cases hrun
  exact ⟨hloaded, _, rfl, horderly, rfl, rfl, rfl⟩

end ClassBridge
