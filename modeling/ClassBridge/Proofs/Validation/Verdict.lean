import ClassBridge.Proofs.Pipeline.Outcome
import ClassBridge.Proofs.Validation.Violations
import Mathlib.Data.List.TakeWhile

/-!
# The verdict of the default pipeline

The built-in lints look at the whole model, containers included, and report the violations of the
manifest (`findings_eq`).  Two facts carry this.

**Declared methods.**  A lint sees of a declared method what the manifest says of it; the class of
a result is found by its name, since names are distinct.

**Methods of containers.**  No lint has anything to report about them, whatever the element is: they
have receivers, none of their parameters is named like one, and no result of theirs spells a name.
-/

namespace ClassBridge

open Identifier

namespace Text

/-- Trimming keeps every character that is not blank. -/
lemma mem_trim {c : Char} {cs : List Char} (hc : c ∈ cs) (hblank : isBlank c = false) :
    c ∈ trim cs := by
  have hkept : ∀ xs : List Char, c ∈ xs → c ∈ xs.dropWhile isBlank := by
    intro xs hxs
    rw [← List.takeWhile_append_dropWhile (p := isBlank) (l := xs), List.mem_append] at hxs
    rcases hxs with hxs | hxs
    · rw [List.mem_takeWhile_imp hxs] at hblank
      exact Bool.noConfusion hblank
    · exact hxs
  rw [trim, trimEnd, trimStart, List.mem_reverse]
  exact hkept _ (List.mem_reverse.mpr (hkept cs hc))

end Text

/-! ## The methods of containers -/

namespace Instantiation

variable {name element : String} {method : String × MethodDecl}

lemma isStatic_of_mem_methods (h : method ∈ methods name element) :
    method.2.isStatic = false := by
  simp only [methods, List.mem_cons, List.not_mem_nil, or_false] at h
  rcases h with rfl | rfl | rfl | rfl | rfl | rfl <;> rfl

lemma self_not_mem_of_mem_methods (h : method ∈ methods name element) :
    "self" ∉ method.2.params.map Prod.fst := by
  intro hself
  obtain ⟨param, hparam, hkey⟩ := List.mem_map.mp hself
  have hmem := mem_paramKeys h hparam
  rw [hkey] at hmem
  revert hmem
  decide

/-- A pointer type is not a name. -/
lemma not_isName_pointer (element : String) : ¬ IsName (Text.trimmed (element ++ " const*")) := by
  intro h
  refine not_mem_of_isFollower_eq_false h.1 (c := '*') (by decide) ?_
  rw [Text.trimmed, String.toList_ofList]
  exact Text.mem_trim (by simp) (by decide)

/-- No result of a container method spells a name. -/
lemma not_isName_of_mem_methods (h : method ∈ methods name element) {type : String}
    (htype : method.2.returnType = some type) : ¬ IsName (Text.trimmed type) := by
  have hint : ¬ IsName (Text.trimmed "int") := by decide
  simp only [methods, List.mem_cons, List.not_mem_nil, or_false] at h
  rcases h with rfl | rfl | rfl | rfl | rfl | rfl <;> cases htype
  · exact hint
  · exact not_isName_pointer element

end Instantiation

namespace Manifest

variable {manifest : Manifest}

lemma exists_of_mem_expansion {c : ClassModel} (hc : c ∈ manifest.expansion) {m : MethodModel}
    (hm : m ∈ c.methods) :
    ∃ name element, ∃ method ∈ Instantiation.methods name element, m = method.2.model method.1 := by
  obtain ⟨entry, -, rfl⟩ := List.mem_map.mp hc
  obtain ⟨method, hmethod, rfl⟩ := List.mem_map.mp hm
  exact ⟨entry.1, entry.2.native, method, hmethod, rfl⟩

/-! ## From methods to violations -/

/-- A lint that has nothing to say of containers goes through the declared methods. -/
lemma overMethods_ofManifest {check : ClassModel → MethodModel → List Diagnostic}
    {found : MethodSite → List Diagnostic}
    (hdeclared : ∀ entry ∈ manifest.classes, ∀ method ∈ entry.2.methods,
      check (entry.2.model entry.1 .declared) (method.2.model method.1)
        = found ⟨entry.1, method.1, method.2⟩)
    (hexpansion : ∀ c ∈ manifest.expansion, ∀ m ∈ c.methods, check c m = []) :
    Lint.overMethods check (Model.ofManifest manifest) = manifest.methodSites.flatMap found := by
  have hcontainers : (manifest.expansion.flatMap fun c => c.methods.flatMap (check c)) = [] := by
    refine List.flatMap_eq_nil_iff.mpr fun c hc => ?_
    exact List.flatMap_eq_nil_iff.mpr fun m hm => hexpansion c hc m hm
  rw [Lint.overMethods, Model.ofManifest, List.flatMap_append, hcontainers, List.append_nil,
    Model.declared, methodSites, List.flatMap_map, List.flatMap_assoc]
  refine List.flatMap_congr fun entry hentry => ?_
  have hmethods : (entry.2.model entry.1 .declared).methods
      = entry.2.methods.map fun method => method.2.model method.1 := rfl
  show (entry.2.model entry.1 .declared).methods.flatMap _ = _
  rw [hmethods, List.flatMap_map, List.flatMap_map]
  exact List.flatMap_congr fun method hmethod => hdeclared entry hentry method hmethod

/-- A report about every site of a kind. -/
lemma flatMap_report {P : MethodSite → Prop} [DecidablePred P] (violation : MethodSite → Violation)
    (sites : List MethodSite) :
    (sites.flatMap fun site => if P site then [(violation site).report] else [])
      = ((sites.filter P).map violation).map Violation.report := by
  induction sites with
  | nil => rfl
  | cons site sites ih =>
      rw [List.flatMap_cons, ih]
      by_cases h : P site
      · simp [h]
      · simp [h]

/-! ## Results -/

/-- Names that have to be destroyed, as the whole model sees them. -/
lemma needsDestructor_iff {name : String} :
    manifest.NeedsDestructor name
      ↔ ∃ c ∈ (Model.ofManifest manifest).classes, c.name = name ∧ c.dtor ≠ .trivial := by
  constructor
  · rintro (⟨entry, hentry, hname, hdtor⟩ | ⟨hcontainer, hfree⟩)
    · exact ⟨_, mem_classes_ofManifest.mpr (Or.inl ⟨entry, hentry, rfl⟩), hname, hdtor⟩
    · obtain ⟨entry, hentry, rfl⟩ := List.mem_map.mp hcontainer
      refine ⟨entry.2.model entry.1 manifest.container, mem_classes_ofManifest.mpr (Or.inr ?_),
        rfl, fun hdtor => Lifecycle.noConfusion hdtor⟩
      exact ⟨entry, mem_freeContainers.mpr ⟨hentry, hfree⟩, rfl⟩
  · rintro ⟨c, hc, hname, hdtor⟩
    rcases mem_classes_ofManifest.mp hc with ⟨entry, hentry, rfl⟩ | ⟨entry, hentry, rfl⟩
    · exact Or.inl ⟨entry, hentry, hname, hdtor⟩
    · obtain ⟨hmem, hfree⟩ := mem_freeContainers.mp hentry
      rw [Instantiation.name_model] at hname
      rw [hname] at hfree
      refine Or.inr ⟨?_, hfree⟩
      rw [← hname]
      exact List.mem_map_of_mem hmem

/-- Only names have to be destroyed. -/
lemma isName_of_needsDestructor (h : manifest.Loaded) {name : String}
    (hname : manifest.NeedsDestructor name) : IsName name := by
  obtain ⟨c, hc, rfl, -⟩ := needsDestructor_iff.mp hname
  exact (named_of_mem_classes h hc).name

end Manifest

namespace Lint

open Manifest

variable {manifest : Manifest}

lemma needsDestructor_iff_class? (h : manifest.Loaded) (name : String) :
    manifest.NeedsDestructor name
      ↔ ∃ c, (Model.ofManifest manifest).class? name = some c ∧ c.dtor ≠ .trivial := by
  rw [needsDestructor_iff]
  simp only [Model.class?_eq_some_iff (nodup_names_ofManifest h), and_assoc]

/-- The return lint objects to a result exactly if it has to be destroyed. -/
lemma unsafeReturn?_eq_some_iff (h : manifest.Loaded) {m : MethodModel} {type : String} :
    unsafeReturn? (Model.ofManifest manifest) m = some type
      ↔ m.returnType = some type ∧ manifest.NeedsDestructor (Text.trimmed type) := by
  unfold unsafeReturn?
  cases m.returnType with
  | none => simp
  | some result =>
      have hiff := needsDestructor_iff_class? h (Text.trimmed result)
      cases hclass : (Model.ofManifest manifest).class? (Text.trimmed result) with
      | none =>
          simp only [hclass, reduceCtorEq, false_and, exists_false, iff_false] at hiff
          simp only [hclass, reduceCtorEq, false_iff]
          rintro ⟨heq, hneeds⟩
          cases heq
          exact hiff hneeds
      | some c =>
          simp only [hclass, Option.some.injEq, exists_eq_left'] at hiff
          by_cases hdtor : c.dtor = .trivial
          · simp only [hclass, hdtor, beq_self_eq_true, if_true, reduceCtorEq, false_iff]
            rintro ⟨heq, hneeds⟩
            cases heq
            exact hiff.mp hneeds hdtor
          · have hneeds := hiff.mpr hdtor
            simp only [hclass, beq_iff_eq, hdtor, if_false, Option.some.injEq]
            constructor
            · rintro rfl
              exact ⟨rfl, hneeds⟩
            · rintro ⟨heq, -⟩
              exact heq

/-- A result type that says nothing is returned is no name. -/
lemma not_isName_of_isVoid {type : String} (h : isVoid type = true) :
    ¬ IsName (Text.trimmed type) := by
  have hvoid : Text.trimmed type = "void" := by simpa [isVoid] using h
  rw [hvoid]
  decide

lemma unsafeReturn?_model_eq_some_iff (h : manifest.Loaded) {name type : String}
    {decl : MethodDecl} :
    unsafeReturn? (Model.ofManifest manifest) (decl.model name) = some type
      ↔ decl.returnType = some type ∧ manifest.NeedsDestructor (Text.trimmed type) := by
  rw [unsafeReturn?_eq_some_iff h]
  simp only [MethodDecl.model, Option.filter_eq_some_iff]
  constructor
  · rintro ⟨⟨htype, -⟩, hneeds⟩
    exact ⟨htype, hneeds⟩
  · rintro ⟨htype, hneeds⟩
    refine ⟨⟨htype, ?_⟩, hneeds⟩
    by_contra hvoid
    simp only [Bool.not_eq_true', Bool.not_eq_false] at hvoid
    exact not_isName_of_isVoid hvoid (isName_of_needsDestructor h hneeds)

/-- The return lint reports the methods that return by value what has to be destroyed. -/
lemma check_nonTrivialReturn (h : manifest.Loaded) :
    nonTrivialReturn.check (Model.ofManifest manifest)
      = ((manifest.methodSites.filter (manifest.ReturnsByValue ·)).map
          Violation.byValueReturn).map Violation.report := by
  rw [← flatMap_report]
  refine overMethods_ofManifest ?_ ?_
  · intro entry _ method _
    by_cases hreturns : manifest.ReturnsByValue ⟨entry.1, method.1, method.2⟩
    · rw [if_pos hreturns]
      obtain ⟨type, htype, hneeds⟩ := hreturns
      have hresult : method.2.returnType = some type := htype
      rw [(unsafeReturn?_model_eq_some_iff h).mpr ⟨hresult, hneeds⟩, Violation.report, hresult]
      rfl
    · have hnone : unsafeReturn? (Model.ofManifest manifest) (method.2.model method.1) = none := by
        refine Option.eq_none_iff_forall_ne_some.mpr fun type hsome => hreturns ?_
        exact ⟨type, (unsafeReturn?_model_eq_some_iff h).mp hsome⟩
      rw [if_neg hreturns, hnone]
  · intro c hc m hm
    obtain ⟨name, element, method, hmethod, rfl⟩ := exists_of_mem_expansion hc hm
    have hnone : unsafeReturn? (Model.ofManifest manifest) (method.2.model method.1) = none := by
      refine Option.eq_none_iff_forall_ne_some.mpr fun type hsome => ?_
      obtain ⟨htype, hneeds⟩ := (unsafeReturn?_model_eq_some_iff h).mp hsome
      exact Instantiation.not_isName_of_mem_methods hmethod htype
        (isName_of_needsDestructor h hneeds)
    rw [hnone]

/-! ## Flags and parameters -/

/-- The lint of flags reports the methods that are both const and static. -/
lemma check_constStatic (manifest : Manifest) :
    constStatic.check (Model.ofManifest manifest)
      = ((manifest.methodSites.filter (MethodSite.IsConstStatic ·)).map
          Violation.constStatic).map Violation.report := by
  rw [← flatMap_report]
  refine overMethods_ofManifest ?_ ?_
  · intro entry _ method _
    simp only [MethodDecl.model, MethodSite.IsConstStatic, Bool.and_eq_true]
    rfl
  · intro c hc m hm
    obtain ⟨name, element, method, hmethod, rfl⟩ := exists_of_mem_expansion hc hm
    have hreceiver := Instantiation.isStatic_of_mem_methods hmethod
    simp [MethodDecl.model, hreceiver]

/-- Of parameters with distinct names at most one has the name of the receiver. -/
lemma filter_receiverName {params : List (String × String)}
    (h : (params.map Prod.fst).Nodup) {α : Type} (report : String → α) :
    ((params.map fun p => (⟨p.1, p.2⟩ : Parameter)).filter
        fun p => p.name == receiverName).map (fun p => report p.name)
      = if "self" ∈ params.map Prod.fst then [report "self"] else [] := by
  have hnames : ((params.map fun p => (⟨p.1, p.2⟩ : Parameter)).filter
        fun p => p.name == receiverName).map (fun p => report p.name)
      = ((params.map Prod.fst).filter (· == "self")).map report := by
    rw [List.filter_map, List.filter_map, List.map_map, List.map_map]
    rfl
  rw [hnames, List.filter_beq, List.Nodup.count h]
  split <;> simp

/-- The lint of parameters reports the methods that give one the name of the receiver. -/
lemma check_reservedParam (h : manifest.Loaded) :
    reservedParam.check (Model.ofManifest manifest)
      = ((manifest.methodSites.filter (MethodSite.NamesReceiver ·)).map
          Violation.receiverName).map Violation.report := by
  rw [← flatMap_report]
  refine overMethods_ofManifest ?_ ?_
  · intro entry hentry method hmethod
    have hparams := filter_receiverName (h.paramKeys entry hentry method hmethod)
      fun key => methodError "reserved-param"
        ("parameter '" ++ key ++ "' collides with the method receiver") entry.1 method.1
    by_cases hnames : MethodSite.NamesReceiver ⟨entry.1, method.1, method.2⟩
    · rw [if_pos hnames]
      rw [if_pos hnames.2] at hparams
      have hstatic : (method.2.model method.1).isStatic = false := hnames.1
      rw [hstatic]
      exact hparams
    · rw [if_neg hnames]
      cases hstatic : method.2.isStatic with
      | true =>
          have hmodel : (method.2.model method.1).isStatic = true := hstatic
          rw [hmodel, if_pos rfl]
      | false =>
          have hmodel : (method.2.model method.1).isStatic = false := hstatic
          rw [if_neg fun hself => hnames ⟨hstatic, hself⟩] at hparams
          rw [hmodel]
          exact hparams
  · intro c hc m hm
    obtain ⟨name, element, method, hmethod, rfl⟩ := exists_of_mem_expansion hc hm
    have hself := Instantiation.self_not_mem_of_mem_methods hmethod
    have hnone :
        (method.2.model method.1).params.filter (fun p => p.name == receiverName) = [] := by
      refine List.filter_eq_nil_iff.mpr fun p hp hname => hself ?_
      obtain ⟨param, hparam, rfl⟩ := List.mem_map.mp hp
      have hkey : param.1 = "self" := eq_of_beq hname
      rw [← hkey]
      exact List.mem_map_of_mem hparam
    rw [hnone]
    split <;> rfl

end Lint

/-! ## The verdict -/

namespace Manifest

variable {manifest : Manifest}

lemma collisions_eq (manifest : Manifest) :
    manifest.collisions
      = (((manifest.containers.map Prod.fst).filter
          (· ∈ manifest.classes.map Prod.fst)).map Violation.collision).map
            Violation.report := by
  rw [collisions, List.filter_map, List.map_map, List.map_map]
  have hdeclares : ∀ entry : String × Instantiation,
      manifest.declares entry.1 = decide (entry.1 ∈ manifest.classes.map Prod.fst) := by
    intro entry
    rw [Bool.eq_iff_iff, declares_eq_true_iff, decide_eq_true_iff]
  simp only [hdeclares]
  rfl

/-- What is found wrong with a manifest are its violations. -/
theorem findings_eq (h : manifest.Loaded) :
    manifest.findings = manifest.violations.map Violation.report := by
  rw [findings, Lint.findings_builtin, collisions_eq, Lint.check_nonTrivialReturn h,
    Lint.check_constStatic, Lint.check_reservedParam h]
  simp only [violations, List.map_append, List.append_assoc]

/-- **The verdict.**  The default pipeline accepts exactly the lawful manifests, and rejects any
other one with a report for each of its violations, in their order. -/
theorem compile_verdict (h : manifest.Loaded) :
    ((∃ c, manifest.compile = .ok c) ↔ manifest.Lawful)
      ∧ (¬ manifest.Lawful →
        manifest.compile = .error (.invalid (manifest.violations.map Violation.report)))
      ∧ manifest.violations.Nodup := by
  have hnil : manifest.findings = [] ↔ manifest.Lawful := by
    rw [findings_eq h, List.map_eq_nil_iff, violations_eq_nil_iff]
  refine ⟨?_, ?_, nodup_violations h⟩
  · rw [compile_eq, ← hnil]
    by_cases hfindings : manifest.findings = []
    · simp [hfindings]
    · simp [hfindings]
  · intro hunlawful
    rw [compile_eq, if_neg fun hfindings => hunlawful (hnil.mp hfindings), findings_eq h]

/-- A manifest with one violation of each kind. -/
def faultyManifest : Manifest where
  classes := [("Widget", { methods := [
    ("copy", { params := [("self", "int")], returnType := some " Widget " }),
    ("probe", { isConst := true, isStatic := true })] })]
  containers := [("Widget", { native := "int", foreign := "i32" })]

theorem compile_faultyManifest :
    faultyManifest.compile = .error (.invalid [
      ⟨.error, "expand", none,
        "container 'Widget' collides with a declared class", some "containers.Widget"⟩,
      ⟨.error, "validate", some "non-trivial-return",
        "C API does not allow to return non-trivially C++ type  Widget ", some "Widget.copy"⟩,
      ⟨.error, "validate", some "const-static",
        "a static method has no receiver and cannot be const", some "Widget.probe"⟩,
      ⟨.error, "validate", some "reserved-param",
        "parameter 'self' collides with the method receiver", some "Widget.copy"⟩]) := by
  have hloaded : faultyManifest.Loaded :=
    { classKeys := by decide
      containerKeys := by decide
      layoutKeys := by decide
      methodKeys := by decide
      paramKeys := by decide
      namesChecked := ⟨"", rfl⟩ }
  have hunlawful : ¬ faultyManifest.Lawful := fun h =>
    h.containers _ List.mem_cons_self List.mem_cons_self
  rw [(compile_verdict hloaded).2.1 hunlawful]
  decide

end Manifest

end ClassBridge
