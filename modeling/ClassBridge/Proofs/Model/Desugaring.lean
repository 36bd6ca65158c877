import ClassBridge.Artifact.Emitter
import ClassBridge.Proofs.Model.Names
import ClassBridge.Proofs.Pipeline.Outcome

/-!
# Containers are sugar

A container can be written out as a class of its name: `Manifest.desugared` puts the classes that
the containers stand for behind the declared ones and leaves no containers.

**One model.**  As long as no container takes the name of a declared class, the two manifests have
the same model up to the origins of its classes (`ofManifest_desugared`).

**Origins do not count.**  `Model.asDeclared` forgets where classes come from.  The built-in lints
and the renderers of header, source and glue cannot tell a model from the one without origins, so
they cannot tell a container from the class it stands for (`compile_desugared`).
-/

namespace ClassBridge

open Identifier

/-! ## Forgetting origins -/

/-- The class as if the schema had declared it. -/
def ClassModel.asDeclared (c : ClassModel) : ClassModel := { c with origin := .declared }

/-- The model with all of its classes as if they were declared. -/
def Model.asDeclared (model : Model) : Model :=
  { model with classes := model.classes.map ClassModel.asDeclared }

/-! ### Lints -/

namespace Lint

variable {model : Model}

lemma class?_asDeclared (model : Model) (name : String) :
    model.asDeclared.class? name = (model.class? name).map ClassModel.asDeclared := by
  rw [Model.class?, Model.asDeclared, List.find?_map]
  rfl

lemma unsafeReturn?_asDeclared (model : Model) (m : MethodModel) :
    unsafeReturn? model.asDeclared m = unsafeReturn? model m := by
  unfold unsafeReturn?
  cases m.returnType with
  | none => rfl
  | some type =>
      simp only [class?_asDeclared]
      cases model.class? (Text.trimmed type) <;> rfl

/-- A lint that looks at methods may know the name of their class, but not where it comes from. -/
lemma overMethods_asDeclared {check check' : ClassModel → MethodModel → List Diagnostic}
    (h : ∀ c m, check' c.asDeclared m = check c m) (model : Model) :
    overMethods check' model.asDeclared = overMethods check model := by
  rw [overMethods, Model.asDeclared, List.flatMap_map, overMethods]
  refine List.flatMap_congr fun c _ => ?_
  show c.methods.flatMap (check' c.asDeclared) = c.methods.flatMap (check c)
  exact List.flatMap_congr fun m _ => h c m

theorem findings_asDeclared (model : Model) :
    findings builtin model.asDeclared = findings builtin model := by
  have hreturn : nonTrivialReturn.check model.asDeclared = nonTrivialReturn.check model := by
    refine overMethods_asDeclared (fun c m => ?_) model
    rw [unsafeReturn?_asDeclared]
    rfl
  have hflags : constStatic.check model.asDeclared = constStatic.check model :=
    overMethods_asDeclared (fun _ _ => rfl) model
  have hparams : reservedParam.check model.asDeclared = reservedParam.check model :=
    overMethods_asDeclared (fun _ _ => rfl) model
  rw [findings_builtin, findings_builtin, hreturn, hflags, hparams]

end Lint

/-! ### Artifacts -/

namespace Artifact

lemma each_asDeclared {script : ClassModel → Script} (h : ∀ c, script c.asDeclared = script c)
    (classes : List ClassModel) :
    Script.each (classes.map ClassModel.asDeclared) script = Script.each classes script := by
  rw [Script.each, List.map_map, Script.each]
  congr 2
  exact List.map_congr_left fun c _ => h c

lemma filter_asDeclared {keep : ClassModel → Bool} (h : ∀ c, keep c.asDeclared = keep c)
    (classes : List ClassModel) :
    (classes.map ClassModel.asDeclared).filter keep
      = (classes.filter keep).map ClassModel.asDeclared := by
  rw [List.filter_map]
  congr 1
  exact List.filter_congr fun c _ => h c

lemma Header.render_asDeclared (model : Model) :
    Header.render model.asDeclared = Header.render model := by
  have hincludes : Header.includes model.asDeclared = Header.includes model := by
    rw [Header.includes, Model.asDeclared, List.map_map]
    rfl
  have hfaces : Header.faces model.asDeclared = Header.faces model := by
    rw [Header.faces, hincludes, Model.asDeclared, each_asDeclared fun _ => rfl,
      filter_asDeclared fun _ => rfl, each_asDeclared fun _ => rfl]
    rfl
  have hhead : Header.head model.asDeclared = Header.head model := by
    rw [Header.head, hfaces, Model.asDeclared, filter_asDeclared fun _ => rfl,
      each_asDeclared fun _ => rfl]
    rfl
  rw [Header.render, Header.script, hhead, Model.asDeclared, each_asDeclared fun _ => rfl]
  rfl

lemma Source.render_asDeclared (model : Model) :
    Source.render model.asDeclared = Source.render model := by
  rw [Source.render, Source.script, Model.asDeclared, each_asDeclared fun _ => rfl]
  rfl

lemma Glue.render_asDeclared (model : Model) :
    Glue.render model.asDeclared = Glue.render model := by
  have hordering : Glue.needsOrdering model.asDeclared = Glue.needsOrdering model := by
    rw [Glue.needsOrdering, Model.asDeclared, List.any_map]
    rfl
  have huninit : Glue.needsUninit model.asDeclared = Glue.needsUninit model := by
    rw [Glue.needsUninit, Model.asDeclared, List.any_map]
    rfl
  rw [Glue.render, Glue.script, hordering, huninit, Model.asDeclared, each_asDeclared fun _ => rfl]
  rfl

end Artifact

/-! ## Writing containers out -/

namespace Manifest

variable {manifest : Manifest}

/-- The class that a container stands for, as an entry of the schema. -/
def writtenOut (manifest : Manifest) (entry : String × Instantiation) : String × ClassDecl :=
  (entry.1, entry.2.classDecl entry.1 manifest.container)

/-- The manifest with its containers written out as classes, behind the declared ones. -/
def desugared (manifest : Manifest) : Manifest :=
  { manifest with
    classes := manifest.classes ++ manifest.containers.map manifest.writtenOut
    containers := [] }

/-- No container has the name of a declared class. -/
def Disjoint (manifest : Manifest) : Prop :=
  ∀ entry ∈ manifest.containers, entry.1 ∉ manifest.classes.map Prod.fst

instance (manifest : Manifest) : Decidable manifest.Disjoint :=
  inferInstanceAs (Decidable (∀ entry ∈ manifest.containers, _))

lemma freeContainers_of_disjoint (h : manifest.Disjoint) :
    manifest.freeContainers = manifest.containers := by
  refine List.filter_eq_self.mpr fun entry hentry => ?_
  have hdeclares : manifest.declares entry.1 ≠ true := fun hd =>
    h entry hentry (declares_eq_true_iff.mp hd)
  simpa using hdeclares

lemma collisions_of_disjoint (h : manifest.Disjoint) : manifest.collisions = [] := by
  have hnone : manifest.containers.filter (fun entry => manifest.declares entry.1) = [] := by
    refine List.filter_eq_nil_iff.mpr fun entry hentry hd => ?_
    exact h entry hentry (declares_eq_true_iff.mp hd)
  show (manifest.containers.filter fun entry => manifest.declares entry.1).map _ = []
  rw [hnone, List.map_nil]

/-- The two manifests have one model, origins apart. -/
theorem ofManifest_desugared (h : manifest.Disjoint) :
    Model.ofManifest manifest.desugared = (Model.ofManifest manifest).asDeclared := by
  have hdeclared : (Model.declared manifest.desugared).classes
      = ((Model.declared manifest).classes ++ manifest.expansion).map ClassModel.asDeclared := by
    simp only [Model.declared, desugared, expansion, freeContainers_of_disjoint h,
      List.map_append, List.map_map]
    rfl
  have hexpansion : manifest.desugared.expansion = [] := rfl
  simp only [Model.ofManifest, Model.asDeclared, hexpansion, List.append_nil, ← hdeclared]
  rfl

theorem findings_desugared (h : manifest.Disjoint) :
    manifest.desugared.findings = manifest.findings := by
  rw [findings, findings, ofManifest_desugared h, Lint.findings_asDeclared,
    collisions_of_disjoint h]
  rfl

/-! ### What loading demands -/

lemma mem_classes_desugared {entry : String × ClassDecl} :
    entry ∈ manifest.desugared.classes
      ↔ entry ∈ manifest.classes
        ∨ ∃ container ∈ manifest.containers, manifest.writtenOut container = entry := by
  rw [desugared, List.mem_append, List.mem_map]

/-- The names that a container brings with it are names, whatever its element is. -/
lemma namesFit_desugared (h : manifest.NamesFit) : manifest.desugared.NamesFit where
  symbolPrefix := h.symbolPrefix
  classes := by
    intro entry hentry
    rcases mem_classes_desugared.mp hentry with hentry | ⟨container, hcontainer, rfl⟩
    · exact h.classes entry hentry
    · exact h.containers container hcontainer
  layouts := by
    intro entry hentry field hfield
    rcases mem_classes_desugared.mp hentry with hentry | ⟨container, -, rfl⟩
    · exact h.layouts entry hentry field hfield
    · have hpointer : IsName "_d" := by decide
      rw [List.mem_singleton.mp hfield]
      exact hpointer
  methods := by
    intro entry hentry method hmethod
    rcases mem_classes_desugared.mp hentry with hentry | ⟨container, -, rfl⟩
    · exact h.methods entry hentry method hmethod
    · exact Instantiation.wellFormed_of_mem_methods hmethod
  params := by
    intro entry hentry method hmethod param hparam
    rcases mem_classes_desugared.mp hentry with hentry | ⟨container, -, rfl⟩
    · exact h.params entry hentry method hmethod param hparam
    · exact Instantiation.isName_of_mem_params hmethod hparam
  containers := by simp [desugared]

/-- A manifest can be loaded with its containers written out if it can be loaded at all. -/
theorem loaded_desugared (h : manifest.Loaded) (hdisjoint : manifest.Disjoint) :
    manifest.desugared.Loaded where
  classKeys := by
    have hkeys : (manifest.containers.map manifest.writtenOut).map Prod.fst
        = manifest.containers.map Prod.fst := by
      rw [List.map_map]
      rfl
    rw [desugared, List.map_append, hkeys, List.nodup_append]
    refine ⟨h.classKeys, h.containerKeys, ?_⟩
    rintro name hname contained hcontained rfl
    obtain ⟨container, hcontainer, rfl⟩ := List.mem_map.mp hcontained
    exact hdisjoint container hcontainer hname
  containerKeys := List.nodup_nil
  layoutKeys := by
    intro entry hentry
    rcases mem_classes_desugared.mp hentry with hentry | ⟨container, -, rfl⟩
    · exact h.layoutKeys entry hentry
    · exact List.nodup_singleton _
  methodKeys := by
    intro entry hentry
    rcases mem_classes_desugared.mp hentry with hentry | ⟨container, -, rfl⟩
    · exact h.methodKeys entry hentry
    · have hdistinct : Instantiation.methodKeys.Nodup := by decide
      exact hdistinct
  paramKeys := by
    intro entry hentry method hmethod
    rcases mem_classes_desugared.mp hentry with hentry | ⟨container, -, rfl⟩
    · exact h.paramKeys entry hentry method hmethod
    · exact Instantiation.nodup_params_of_mem_methods hmethod
  namesChecked := ⟨"", checkNames_eq_ok_iff.mpr (namesFit_desugared h.namesFit)⟩

/-! ## The two runs -/

/-- **Containers are sugar.**  A loaded manifest without collisions can be loaded, under any text,
with its containers written out.  The default pipeline treats the two alike: it accepts both or
fails for both in the same way, and what it accepts has the same header, source and glue. -/
theorem compile_desugared (hloaded : manifest.Loaded) (hdisjoint : manifest.Disjoint) :
    manifest.desugared.Loaded ∧ (∀ text, manifest.desugared.checkNames text = .ok ())
      ∧ ((∃ c, manifest.compile = .ok c) ↔ ∃ c, manifest.desugared.compile = .ok c)
      ∧ (∀ failure, manifest.compile = .error failure
        ↔ manifest.desugared.compile = .error failure)
      ∧ ∀ c c', manifest.compile = .ok c → manifest.desugared.compile = .ok c' →
        ∃ model model', c.model = some model ∧ c'.model = some model'
          ∧ Artifact.Header.render model' = Artifact.Header.render model
          ∧ Artifact.Source.render model' = Artifact.Source.render model
          ∧ Artifact.Glue.render model' = Artifact.Glue.render model := by
  refine ⟨loaded_desugared hloaded hdisjoint, ?_, ?_, ?_, ?_⟩
  · intro text
    exact checkNames_eq_ok_iff.mpr (namesFit_desugared hloaded.namesFit)
  · rw [compile_eq, compile_eq, findings_desugared hdisjoint]
    by_cases h : manifest.findings = [] <;> simp [h]
  · intro failure
    rw [compile_eq, compile_eq, findings_desugared hdisjoint]
    by_cases h : manifest.findings = [] <;> simp [h]
  · intro c c' hc hc'
    refine ⟨_, _, model_of_compile hc, model_of_compile hc', ?_⟩
    rw [ofManifest_desugared hdisjoint]
    exact ⟨Artifact.Header.render_asDeclared _, Artifact.Source.render_asDeclared _,
      Artifact.Glue.render_asDeclared _⟩

/-- A class, and two containers whose elements have unusual spellings. -/
def twoContainersManifest : Manifest where
  classes := [("Url", { ord := true })]
  containers := [("UrlList", { native := "Url", foreign := "Url" }),
    ("Table", { native := "std::pair<int, int>", foreign := "(i32, i32)" })]

theorem compile_desugared_twoContainers :
    ∃ c c' model model', twoContainersManifest.compile = .ok c
      ∧ twoContainersManifest.desugared.compile = .ok c'
      ∧ c.model = some model ∧ c'.model = some model' ∧ model ≠ model'
      ∧ Artifact.Header.render model' = Artifact.Header.render model
      ∧ Artifact.Source.render model' = Artifact.Source.render model
      ∧ Artifact.Glue.render model' = Artifact.Glue.render model := by
  have hloaded : twoContainersManifest.Loaded :=
    { classKeys := by decide
      containerKeys := by decide
      layoutKeys := by decide
      methodKeys := by decide
      paramKeys := by decide
      namesChecked := ⟨"", rfl⟩ }
  have hdisjoint : twoContainersManifest.Disjoint := by decide
  have hc : twoContainersManifest.compile = .ok twoContainersManifest.compiled := rfl
  have hc' : twoContainersManifest.desugared.compile
      = .ok twoContainersManifest.desugared.compiled := rfl
  obtain ⟨-, -, -, -, hrender⟩ := compile_desugared hloaded hdisjoint
  obtain ⟨model, model', hmodel, hmodel', hsame⟩ := hrender _ _ hc hc'
  refine ⟨_, _, model, model', hc, hc', hmodel, hmodel', ?_, hsame⟩
  cases hmodel
  cases hmodel'
  decide

end Manifest

end ClassBridge
