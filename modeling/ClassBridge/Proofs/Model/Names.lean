import ClassBridge.Model.Expansion
import ClassBridge.Proofs.Manifest.Loaded

/-!
# The names in the model of a loaded manifest

Every class of the model comes from a declared class or from a container that no declared class
shares its name with (`mem_classes_ofManifest`), and both are built by `ClassDecl.model`.  So what
loading guarantees of the tables of a manifest holds of the model too: class names are distinct
names, and inside a class the methods have distinct identifiers (`ClassModel.Named`).  The six
methods of a container meet this whatever its element is.
-/

namespace ClassBridge

open Identifier

/-! ## Where classes come from -/

lemma mem_classes_ofManifest {manifest : Manifest} {c : ClassModel} :
    c ∈ (Model.ofManifest manifest).classes
      ↔ (∃ entry ∈ manifest.classes, c = entry.2.model entry.1 .declared)
        ∨ ∃ entry ∈ manifest.freeContainers,
          c = entry.2.model entry.1 manifest.container := by
  simp only [Model.ofManifest, Model.declared, Manifest.expansion, List.mem_append, List.mem_map,
    eq_comm]

lemma mem_freeContainers {manifest : Manifest} {entry : String × Instantiation} :
    entry ∈ manifest.freeContainers
      ↔ entry ∈ manifest.containers ∧ entry.1 ∉ manifest.classes.map Prod.fst := by
  rw [Manifest.freeContainers, List.mem_filter, ← Manifest.declares_eq_true_iff]
  simp

@[simp] lemma ClassDecl.name_model (decl : ClassDecl) (name : String) (origin : Origin) :
    (decl.model name origin).name = name := rfl

@[simp] lemma Instantiation.name_model (i : Instantiation) (name : String)
    (config : ContainerTemplate) : (i.model name config).name = name := rfl

/-- The declared names come first, then those of the free containers. -/
lemma names_ofManifest (manifest : Manifest) :
    (Model.ofManifest manifest).classes.map (·.name)
      = manifest.classes.map Prod.fst ++ manifest.freeContainers.map Prod.fst := by
  simp [Model.ofManifest, Model.declared, Manifest.expansion, Function.comp_def]

/-- The class names of a model are distinct. -/
theorem nodup_names_ofManifest {manifest : Manifest} (h : manifest.Loaded) :
    ((Model.ofManifest manifest).classes.map (·.name)).Nodup := by
  have hfree : (manifest.freeContainers.map Prod.fst).Nodup :=
    h.containerKeys.sublist (List.Sublist.map Prod.fst List.filter_sublist)
  rw [names_ofManifest, List.nodup_append]
  refine ⟨h.classKeys, hfree, ?_⟩
  rintro declared hdeclared contained hcontained rfl
  obtain ⟨entry, hentry, rfl⟩ := List.mem_map.mp hcontained
  exact (mem_freeContainers.mp hentry).2 hdeclared

/-- The first item of a key is the item itself if keys are distinct. -/
lemma find?_eq_some_of_nodup {α κ : Type} [BEq κ] [LawfulBEq κ] {key : α → κ} {items : List α}
    (hkeys : (items.map key).Nodup) {item : α} (hitem : item ∈ items) :
    items.find? (fun other => key other == key item) = some item := by
  cases hfound : items.find? fun other => key other == key item with
  | none => simpa using List.find?_eq_none.mp hfound item hitem
  | some other =>
      have hkey : key other = key item := by simpa using List.find?_some hfound
      exact congrArg some
        (List.inj_on_of_nodup_map hkeys (List.mem_of_find?_eq_some hfound) hitem hkey)

/-- A class is found by its name if names are distinct. -/
lemma Model.class?_eq_some_iff {model : Model} (hnames : (model.classes.map (·.name)).Nodup)
    {name : String} {c : ClassModel} :
    model.class? name = some c ↔ c ∈ model.classes ∧ c.name = name := by
  constructor
  · intro h
    exact ⟨List.mem_of_find?_eq_some h, by simpa using List.find?_some h⟩
  · rintro ⟨hc, rfl⟩
    exact find?_eq_some_of_nodup hnames hc

/-- A class has a function that destroys its objects unless its host does or nothing has to be
done. -/
lemma generateDtor_iff {manifest : Manifest} {c : ClassModel}
    (hc : c ∈ (Model.ofManifest manifest).classes) :
    c.generateDtor = true ↔ c.managedObject = false ∧ c.dtor ≠ .trivial := by
  have hmodel : ∀ (decl : ClassDecl) name origin, (decl.model name origin).generateDtor = true
      ↔ (decl.model name origin).managedObject = false
        ∧ (decl.model name origin).dtor ≠ .trivial := by
    intro decl name origin
    simp [ClassDecl.model, ClassDecl.generatesDtor]
  rcases mem_classes_ofManifest.mp hc with ⟨entry, -, rfl⟩ | ⟨entry, -, rfl⟩
  · exact hmodel _ _ _
  · exact hmodel _ _ _

/-! ## Names inside a class -/

namespace ClassModel

/-- What the names of a class and of its methods have to be. -/
structure Named (c : ClassModel) : Prop where
  name : IsName c.name
  methods : ∀ m ∈ c.methods, WellFormed m.name
  params : ∀ m ∈ c.methods, ∀ p ∈ m.params, IsName p.name
  distinct : (c.methods.map (·.name)).Nodup

/-- A method is found by its name. -/
lemma Named.method?_eq_some {c : ClassModel} (h : c.Named) {m : MethodModel}
    (hm : m ∈ c.methods) : c.method? m.name = some m :=
  find?_eq_some_of_nodup h.distinct hm

end ClassModel

lemma ClassDecl.named_model {decl : ClassDecl} {name : String} {origin : Origin}
    (hname : IsName name) (hmethods : ∀ m ∈ decl.methods, WellFormed m.1)
    (hparams : ∀ m ∈ decl.methods, ∀ p ∈ m.2.params, IsName p.1)
    (hdistinct : (decl.methods.map Prod.fst).Nodup) : (decl.model name origin).Named where
  name := hname
  methods := by
    intro m hm
    obtain ⟨entry, hentry, rfl⟩ := List.mem_map.mp hm
    exact hmethods entry hentry
  params := by
    intro m hm p hp
    obtain ⟨entry, hentry, rfl⟩ := List.mem_map.mp hm
    obtain ⟨param, hparam, rfl⟩ := List.mem_map.mp hp
    exact hparams entry hentry param hparam
  distinct := by
    have hnames : (decl.model name origin).methods.map (·.name)
        = decl.methods.map Prod.fst := by
      simp [ClassDecl.model, MethodDecl.model, Function.comp_def]
    rw [hnames]
    exact hdistinct

namespace Instantiation

/-- The keys of the six methods. -/
def methodKeys : List String :=
  ["size", "asSlice", "append", "appendList", "appendSlice", "reserveAdditional"]

lemma map_fst_methods (name element : String) :
    (methods name element).map Prod.fst = methodKeys := rfl

instance (name : String) : Decidable (WellFormed name) :=
  decidable_of_iff (defect? name = none) defect?_eq_none_iff

instance (name : String) : Decidable (IsName name) :=
  inferInstanceAs (Decidable (_ ∧ _))

lemma wellFormed_of_mem_methods {name element : String} {m : String × MethodDecl}
    (h : m ∈ methods name element) : WellFormed m.1 := by
  have hall : ∀ key ∈ methodKeys, WellFormed key := by decide
  refine hall m.1 ?_
  rw [← map_fst_methods name element]
  exact List.mem_map_of_mem h

/-- The parameters of the six methods. -/
def paramKeys : List String := ["size", "item", "other", "items", "additional"]

lemma mem_paramKeys {name element : String} {m : String × MethodDecl}
    (hm : m ∈ methods name element) {p : String × String} (hp : p ∈ m.2.params) :
    p.1 ∈ paramKeys := by
  simp only [methods, List.mem_cons, List.not_mem_nil, or_false] at hm
  rcases hm with rfl | rfl | rfl | rfl | rfl | rfl <;>
    simp only [List.mem_cons, List.not_mem_nil, or_false] at hp
  · subst hp
    simp [paramKeys]
  · subst hp
    simp [paramKeys]
  · subst hp
    simp [paramKeys]
  · rcases hp with rfl | rfl <;> simp [paramKeys]
  · subst hp
    simp [paramKeys]

lemma isName_of_mem_params {name element : String} {m : String × MethodDecl}
    (hm : m ∈ methods name element) {p : String × String} (hp : p ∈ m.2.params) :
    IsName p.1 := by
  have hall : ∀ key ∈ paramKeys, IsName key := by decide
  exact hall p.1 (mem_paramKeys hm hp)

lemma nodup_params_of_mem_methods {name element : String} {m : String × MethodDecl}
    (h : m ∈ methods name element) : (m.2.params.map Prod.fst).Nodup := by
  simp only [methods, List.mem_cons, List.not_mem_nil, or_false] at h
  rcases h with rfl | rfl | rfl | rfl | rfl | rfl <;> simp

/-- A container is well named if its own name is a name, whatever its element is. -/
lemma named_model {i : Instantiation} {name : String} {config : ContainerTemplate}
    (hname : IsName name) : (i.model name config).Named := by
  refine ClassDecl.named_model hname (fun m hm => wellFormed_of_mem_methods hm)
    (fun m hm p hp => isName_of_mem_params hm hp) ?_
  have hdistinct : methodKeys.Nodup := by decide
  exact hdistinct

end Instantiation

/-- Every class of the model of a loaded manifest is well named. -/
theorem named_of_mem_classes {manifest : Manifest} (h : manifest.Loaded) {c : ClassModel}
    (hc : c ∈ (Model.ofManifest manifest).classes) : c.Named := by
  have hfit := h.namesFit
  rcases mem_classes_ofManifest.mp hc with ⟨entry, hentry, rfl⟩ | ⟨entry, hentry, rfl⟩
  · exact ClassDecl.named_model (hfit.classes entry hentry) (hfit.methods entry hentry)
      (hfit.params entry hentry) (h.methodKeys entry hentry)
  · exact Instantiation.named_model (hfit.containers entry (mem_freeContainers.mp hentry).1)

/-- The parameters of a method of the model have distinct names. -/
theorem nodup_params_of_mem_classes {manifest : Manifest} (h : manifest.Loaded) {c : ClassModel}
    (hc : c ∈ (Model.ofManifest manifest).classes) {m : MethodModel} (hm : m ∈ c.methods) :
    (m.params.map (·.name)).Nodup := by
  have hkeys : ∀ (decl : MethodDecl) (name : String),
      (decl.model name).params.map (·.name) = decl.params.map Prod.fst := by
    intro decl name
    rw [MethodDecl.model, List.map_map]
    rfl
  rcases mem_classes_ofManifest.mp hc with ⟨entry, hentry, rfl⟩ | ⟨entry, -, rfl⟩
  · obtain ⟨method, hmethod, rfl⟩ := List.mem_map.mp hm
    rw [hkeys]
    exact h.paramKeys entry hentry method hmethod
  · obtain ⟨method, hmethod, rfl⟩ := List.mem_map.mp hm
    rw [hkeys]
    exact Instantiation.nodup_params_of_mem_methods hmethod

end ClassBridge
