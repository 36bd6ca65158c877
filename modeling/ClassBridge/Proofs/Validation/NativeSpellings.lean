import ClassBridge.Proofs.Validation.Verdict

/-!
# Results in native spelling

A class has two names on the native side: the header makes its C name a type of its own for what
the native spelling denotes.  A result may be declared under either of them.

**By its C name** no object is returned that has to be destroyed (`not_yields_name`): the return
lint looks every result up.

**By its native spelling** one may be.  The lint never sees a native spelling: when the classes of a
manifest are spelled otherwise, everything that is found wrong with it stays the same
(`findings_respelled`).  So the results that pass are those that a renamed class or a container is
spelled like, and no others (`sealed_iff_of_compile`).
-/

namespace ClassBridge

/-- The method returns by value what is spelled so, blanks around the spelling apart. -/
def MethodModel.Returns (m : MethodModel) (spelling : String) : Prop :=
  ∃ type ∈ m.returnType, Text.trimmed type = spelling

namespace Model

/-- Some method returns by value what is spelled so. -/
def Yields (model : Model) (spelling : String) : Prop :=
  ∃ owner ∈ model.classes, ∃ m ∈ owner.methods, m.Returns spelling

/-- Under neither of the names of its class is an object returned by value that has to be
destroyed. -/
def Sealed (model : Model) : Prop :=
  ∀ k ∈ model.classes, k.dtor ≠ .trivial → ¬ model.Yields k.name ∧ ¬ model.Yields k.nativeName

instance (m : MethodModel) (spelling : String) : Decidable (m.Returns spelling) :=
  inferInstanceAs (Decidable (∃ type ∈ m.returnType, _))

instance (model : Model) (spelling : String) : Decidable (model.Yields spelling) :=
  inferInstanceAs (Decidable (∃ owner ∈ model.classes, ∃ m ∈ owner.methods, m.Returns spelling))

instance (model : Model) : Decidable model.Sealed :=
  inferInstanceAs (Decidable (∀ k ∈ model.classes, _ → _))

/-- Where no result is spelled like the C name of a class that has to be destroyed, the renamed
classes decide. -/
lemma sealed_iff {model : Model}
    (hname : ∀ k ∈ model.classes, k.dtor ≠ .trivial → ¬ model.Yields k.name) :
    model.Sealed ↔ ∀ k ∈ model.classes, k.isRenamed = true → k.dtor ≠ .trivial →
      ¬ model.Yields k.nativeName := by
  constructor
  · intro h k hk _ hdtor
    exact (h k hk hdtor).2
  · intro h k hk hdtor
    refine ⟨hname k hk hdtor, ?_⟩
    by_cases hrenamed : k.nativeName = k.name
    · rw [hrenamed]
      exact hname k hk hdtor
    · exact h k hk (bne_iff_ne.mpr hrenamed) hdtor

end Model

namespace Manifest

variable {manifest : Manifest}

/-! ## Results under C names -/

/-- The return lint finds every result that spells the name of a class that has to be destroyed. -/
lemma not_yields_name (hloaded : manifest.Loaded)
    (hcheck : Lint.nonTrivialReturn.check (Model.ofManifest manifest) = []) {k : ClassModel}
    (hk : k ∈ (Model.ofManifest manifest).classes) (hdtor : k.dtor ≠ .trivial) :
    ¬ (Model.ofManifest manifest).Yields k.name := by
  rintro ⟨owner, howner, m, hm, type, htype, hspelling⟩
  have hneeds : manifest.NeedsDestructor (Text.trimmed type) :=
    needsDestructor_iff.mpr ⟨k, hk, hspelling.symm, hdtor⟩
  have hreported := (Lint.unsafeReturn?_eq_some_iff hloaded).mpr ⟨htype, hneeds⟩
  have hnone := Lint.overMethods_eq_nil_iff.mp hcheck owner howner m hm
  rw [hreported] at hnone
  exact List.cons_ne_nil _ _ hnone

/-! ## Other native spellings -/

/-- The same manifest with other native spellings: declared classes are spelled by their names, and
containers are instances of another template. -/
def respelled (manifest : Manifest) (spell : String → Option String)
    (template : ContainerTemplate) : Manifest :=
  { manifest with
    classes := manifest.classes.map fun entry =>
      (entry.1, { entry.2 with overwriteName := spell entry.1 })
    container := template }

section Respelled

variable (manifest) (spell : String → Option String) (template : ContainerTemplate)

lemma keys_respelled : (manifest.respelled spell template).classes.map Prod.fst
    = manifest.classes.map Prod.fst := by
  rw [respelled, List.map_map]
  rfl

lemma methodSites_respelled :
    (manifest.respelled spell template).methodSites = manifest.methodSites := by
  rw [methodSites, respelled, List.flatMap_map]
  rfl

lemma needsDestructor_respelled (name : String) :
    (manifest.respelled spell template).NeedsDestructor name ↔ manifest.NeedsDestructor name := by
  have hclasses : (∃ entry ∈ (manifest.respelled spell template).classes,
      entry.1 = name ∧ entry.2.dtor ≠ .trivial)
        ↔ ∃ entry ∈ manifest.classes, entry.1 = name ∧ entry.2.dtor ≠ .trivial := by
    simp only [respelled, List.mem_map, exists_exists_and_eq_and]
  rw [NeedsDestructor, NeedsDestructor, hclasses, keys_respelled]
  rfl

lemma violations_respelled :
    (manifest.respelled spell template).violations = manifest.violations := by
  have hreturns : ∀ site, (manifest.respelled spell template).ReturnsByValue site
      ↔ manifest.ReturnsByValue site := by
    intro site
    simp only [ReturnsByValue, needsDestructor_respelled]
  have hcontainers : (manifest.respelled spell template).containers = manifest.containers := rfl
  simp only [violations, methodSites_respelled, keys_respelled, hcontainers, hreturns]

/-- Names, keys and methods stay as they are. -/
lemma loaded_respelled (h : manifest.Loaded) : (manifest.respelled spell template).Loaded where
  classKeys := by
    rw [keys_respelled]
    exact h.classKeys
  containerKeys := h.containerKeys
  layoutKeys := List.forall_mem_map.mpr h.layoutKeys
  methodKeys := List.forall_mem_map.mpr h.methodKeys
  paramKeys := List.forall_mem_map.mpr h.paramKeys
  namesChecked := by
    have hfit := h.namesFit
    refine ⟨"", checkNames_eq_ok_iff.mpr ⟨hfit.symbolPrefix, ?_, ?_, ?_, ?_, hfit.containers⟩⟩
    · exact List.forall_mem_map.mpr hfit.classes
    · exact List.forall_mem_map.mpr hfit.layouts
    · exact List.forall_mem_map.mpr hfit.methods
    · exact List.forall_mem_map.mpr hfit.params

/-- Nothing that is found wrong with a manifest depends on native spellings. -/
theorem findings_respelled (h : manifest.Loaded) :
    (manifest.respelled spell template).findings = manifest.findings := by
  rw [findings_eq (manifest.loaded_respelled spell template h), findings_eq h,
    violations_respelled]

end Respelled

/-- **Results in native spelling.**  In a compiled manifest no object that has to be destroyed is
returned under the C name of its class.  None is returned at all exactly if no result is spelled
like a renamed class or a container whose objects have to be destroyed.  The default pipeline does
not decide this: it accepts the manifest under any other native spellings too. -/
theorem sealed_iff_of_compile (hloaded : manifest.Loaded) {c : Compilation}
    (hcompiled : manifest.compile = .ok c) :
    ∃ model, c.model = some model
      ∧ (∀ k ∈ model.classes, k.dtor ≠ .trivial → ¬ model.Yields k.name)
      ∧ (model.Sealed ↔ ∀ k ∈ model.classes, k.isRenamed = true → k.dtor ≠ .trivial →
        ¬ model.Yields k.nativeName)
      ∧ ∀ spell template, (manifest.respelled spell template).Loaded
        ∧ ∃ d, (manifest.respelled spell template).compile = .ok d := by
  have hbuiltin : Lint.nonTrivialReturn ∈ Lint.builtin := List.mem_cons_self
  have hcheck := check_of_compile hcompiled hbuiltin
  have hname : ∀ k ∈ (Model.ofManifest manifest).classes, k.dtor ≠ .trivial →
      ¬ (Model.ofManifest manifest).Yields k.name :=
    fun k hk hdtor => not_yields_name hloaded hcheck hk hdtor
  refine ⟨Model.ofManifest manifest, model_of_compile hcompiled, hname, Model.sealed_iff hname, ?_⟩
  intro spell template
  refine ⟨manifest.loaded_respelled spell template hloaded,
    (manifest.respelled spell template).compiled, ?_⟩
  rw [compile_eq, manifest.findings_respelled spell template hloaded,
    if_pos (findings_eq_nil_of_compile hcompiled)]

/-- A method that returns what none of the classes is spelled like. -/
def pageManifest : Manifest where
  classes := [
    ("Url", {}),
    ("Page", { methods := [("address", { returnType := some "QUrl", isConst := true })] })]
  containers := [("UrlList", { native := "Url", foreign := "Url" })]

/-- One of its classes has the spelling that the method returns. -/
def pageSpelling : String → Option String
  | "Url" => some "QUrl"
  | _ => none

theorem sealed_pageManifest :
    ∃ c model, pageManifest.compile = .ok c ∧ c.model = some model ∧ model.Sealed
      ∧ ∃ d, (pageManifest.respelled pageSpelling {}).compile = .ok d := by
  have hloaded : pageManifest.Loaded := by decide
  have hcompiled : pageManifest.compile = .ok pageManifest.compiled := rfl
  obtain ⟨model, hmodel, -, hsealed, hrespelled⟩ := sealed_iff_of_compile hloaded hcompiled
  refine ⟨_, model, hcompiled, hmodel, hsealed.mpr ?_, (hrespelled pageSpelling {}).2⟩
  cases hmodel
  decide

/-- Under the other spelling an object is returned that nobody destroys. -/
theorem not_sealed_pageManifest_respelled :
    (pageManifest.respelled pageSpelling {}).Loaded
      ∧ ∃ c model, (pageManifest.respelled pageSpelling {}).compile = .ok c
        ∧ c.model = some model ∧ ¬ model.Sealed :=
  ⟨by decide, _, _, rfl, rfl, by decide⟩

end Manifest

end ClassBridge
