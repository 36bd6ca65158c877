import ClassBridge.Proofs.Interface.Operations
import ClassBridge.Proofs.Model.Names
import ClassBridge.Proofs.Pipeline.Outcome

/-!
# The names in the interface

Every function that a compiled manifest exports can be declared as it stands: its symbol and its
parameters are names, and no two of its parameters share one (`AbiFunction.Declarable`).

**Symbols.**  The prefix is an identifier, and all that follows it in a symbol are characters of
identifiers.  A symbol has an underscore on either side of the class, and no keyword has more than
one, so that a method may well be named by a keyword (`isName_symbolOf`).

**Parameters.**  The receivers of lifecycle functions are fixed.  The function of a method puts its
receiver before the parameters of the method.  These have distinct names, and where there is a
receiver the lint about parameters keeps its name out of them (`self_not_mem_params`).
-/

namespace ClassBridge

open Identifier

/-- The symbol and the parameters of the function are names, and the parameters can be told
apart. -/
structure AbiFunction.Declarable (f : AbiFunction) : Prop where
  symbol : IsName f.symbol
  params : ∀ p ∈ f.params, IsName p.name
  distinct : (f.params.map (·.name)).Nodup

namespace ClassModel

variable {c : ClassModel} {symbolPrefix : String}

/-! ## Symbols -/

lemma wellFormed_symbolOf (hsymbol : WellFormed symbolPrefix) (hname : WellFormed c.name)
    {op : AbiOp} (hsuffix : ∀ d ∈ op.suffix.toList, isFollower d = true) :
    WellFormed (c.symbolOf symbolPrefix op) := by
  have hunderscore : ∀ d ∈ "_".toList, isFollower d = true := List.all_eq_true.mp (by decide)
  have hclass : ∀ d ∈ c.name.toList, isFollower d = true := fun d hd => isFollower_of_mem hname hd
  exact (((hsymbol.append hunderscore).append hclass).append hunderscore).append hsuffix

lemma count_underscore_of_mem_keywords :
    ∀ name ∈ nativeKeywords, name.toList.count '_' ≤ 1 := by decide

/-- There is an underscore on either side of the class. -/
lemma two_le_count_underscore_symbolOf (c : ClassModel) (symbolPrefix : String) (op : AbiOp) :
    2 ≤ (c.symbolOf symbolPrefix op).toList.count '_' := by
  have hone : "_".toList.count '_' = 1 := by decide
  simp only [symbolOf, String.toList_append, List.count_append]
  omega

/-- No symbol is a keyword, whatever its parts are. -/
lemma symbolOf_not_mem_keywords (c : ClassModel) (symbolPrefix : String) (op : AbiOp) :
    c.symbolOf symbolPrefix op ∉ nativeKeywords := by
  intro hkeyword
  have hfew := count_underscore_of_mem_keywords _ hkeyword
  have hmany := c.two_le_count_underscore_symbolOf symbolPrefix op
  omega

lemma isFollower_of_mem_lifecycle {op : AbiOp} (hop : op ∈ AbiOp.lifecycle) :
    ∀ d ∈ op.suffix.toList, isFollower d = true := by
  have hall : ∀ op ∈ AbiOp.lifecycle, op.suffix.toList.all isFollower = true := by decide
  exact List.all_eq_true.mp (hall op hop)

lemma isFollower_of_mem_suffix (h : c.Named) {op : AbiOp} (hop : op ∈ c.ops) :
    ∀ d ∈ op.suffix.toList, isFollower d = true := by
  rcases List.mem_append.mp hop with hop | hop
  · exact isFollower_of_mem_lifecycle (c.lifecycleOps_sublist.subset hop)
  · obtain ⟨m, hm, rfl⟩ := List.mem_map.mp hop
    exact fun d hd => isFollower_of_mem (h.methods m hm) hd

/-- The symbol of an exported function is a name. -/
theorem isName_symbolOf (h : c.Named) (hsymbol : WellFormed symbolPrefix) {op : AbiOp}
    (hop : op ∈ c.ops) : IsName (c.symbolOf symbolPrefix op) :=
  ⟨wellFormed_symbolOf hsymbol h.name.1 (isFollower_of_mem_suffix h hop),
    symbolOf_not_mem_keywords c symbolPrefix op⟩

/-! ## Parameters -/

lemma isName_of_mem_receivers (c : ClassModel) (op : AbiOp) : ∀ r ∈ c.receivers op, IsName r.1 := by
  have hself : IsName "self" := by decide
  have hnew : IsName "new_" := by decide
  have hother : IsName "other" := by decide
  have hdest : IsName "dest" := by decide
  cases op <;> simp [receivers, hself, hnew, hother, hdest]

lemma nodup_receivers (c : ClassModel) (op : AbiOp) :
    ((c.receivers op).map Prod.fst).Nodup := by
  cases op <;> simp [receivers]

/-- A lifecycle function can be declared. -/
lemma declarable_of_mem_lifecycleFunctions (h : c.Named) (hsymbol : WellFormed symbolPrefix)
    {f : AbiFunction} (hf : f ∈ c.lifecycleFunctions symbolPrefix) : f.Declarable := by
  have hop : f.op ∈ c.ops := by
    rw [← c.ops_abi symbolPrefix]
    exact List.mem_map_of_mem (List.mem_append_left _ hf)
  rw [eq_of_mem_lifecycleFunctions hf]
  refine ⟨isName_symbolOf h hsymbol hop, ?_, ?_⟩
  · intro p hp
    obtain ⟨r, hr, rfl⟩ := List.mem_map.mp hp
    exact isName_of_mem_receivers c f.op r hr
  · rw [lifecycleFunction, List.map_map]
    exact nodup_receivers c f.op

/-- The names of the parameters of a method function: the receiver's, if there is one, and then
those of the method. -/
lemma names_params_methodFunction (c : ClassModel) (symbolPrefix : String) (m : MethodModel) :
    (c.methodFunction symbolPrefix m).params.map (·.name)
      = (if m.isStatic then [] else ["self"]) ++ m.params.map (·.name) := by
  have hreceiver : (c.receiver m).map (·.name) = if m.isStatic then [] else ["self"] := by
    cases hstatic : m.isStatic <;> simp [receiver, hstatic]
  rw [methodFunction, List.map_append, List.map_map, hreceiver]
  rfl

/-- The function of a method can be declared, if no parameter has the name of its receiver. -/
lemma declarable_methodFunction (h : c.Named) (hsymbol : WellFormed symbolPrefix) {m : MethodModel}
    (hm : m ∈ c.methods) (hdistinct : (m.params.map (·.name)).Nodup)
    (hself : m.isStatic = false → "self" ∉ m.params.map (·.name)) :
    (c.methodFunction symbolPrefix m).Declarable := by
  have hop : AbiOp.method m.name ∈ c.ops := List.mem_append_right _ (List.mem_map_of_mem hm)
  have hnames : ∀ name ∈ m.params.map (·.name), IsName name := by
    rw [List.forall_mem_map]
    exact h.params m hm
  have hreceiver : IsName "self" := by decide
  have hall : ∀ name ∈ (c.methodFunction symbolPrefix m).params.map (·.name), IsName name := by
    rw [names_params_methodFunction]
    cases m.isStatic with
    | true => exact hnames
    | false => exact List.forall_mem_cons.mpr ⟨hreceiver, hnames⟩
  refine ⟨isName_symbolOf h hsymbol hop, fun p hp => hall p.name (List.mem_map_of_mem hp), ?_⟩
  · rw [names_params_methodFunction]
    cases hstatic : m.isStatic with
    | true => exact hdistinct
    | false => exact List.nodup_cons.mpr ⟨hself hstatic, hdistinct⟩

end ClassModel

/-! ## Compiled manifests -/

namespace Manifest

variable {manifest : Manifest} {c : Compilation}

/-- Where there is a receiver, no parameter is named like it. -/
lemma self_not_mem_params (hcompiled : manifest.compile = .ok c) {k : ClassModel}
    (hk : k ∈ (Model.ofManifest manifest).classes) {m : MethodModel} (hm : m ∈ k.methods)
    (hstatic : m.isStatic = false) : "self" ∉ m.params.map (·.name) := by
  have hcheck : Lint.reservedParam.check (Model.ofManifest manifest) = [] :=
    check_of_compile hcompiled (by simp [Lint.builtin])
  have hnone := Lint.overMethods_eq_nil_iff.mp hcheck k hk m hm
  simp only [hstatic, Bool.false_eq_true, if_false, List.map_eq_nil_iff, List.filter_eq_nil_iff]
    at hnone
  intro hself
  obtain ⟨p, hp, hname⟩ := List.mem_map.mp hself
  exact hnone p hp (beq_iff_eq.mpr hname)

/-- **Names in the interface.**  Every function that a compiled manifest exports can be declared:
its symbol is an identifier and no keyword, and so are the names of its parameters, receivers
included, which are distinct. -/
theorem declarable_of_compile (hloaded : manifest.Loaded) (hcompiled : manifest.compile = .ok c) :
    ∃ model, c.model = some model
      ∧ ∀ k ∈ model.classes, ∀ f ∈ k.abi model.settings.symbolPrefix, f.Declarable := by
  refine ⟨Model.ofManifest manifest, model_of_compile hcompiled, ?_⟩
  intro k hk f hf
  have hnamed := named_of_mem_classes hloaded hk
  have hsymbol : WellFormed (Model.ofManifest manifest).settings.symbolPrefix :=
    hloaded.namesFit.symbolPrefix.1
  rcases List.mem_append.mp hf with hf | hf
  · exact ClassModel.declarable_of_mem_lifecycleFunctions hnamed hsymbol hf
  · obtain ⟨m, hm, rfl⟩ := List.mem_map.mp hf
    exact ClassModel.declarable_methodFunction hnamed hsymbol hm
      (nodup_params_of_mem_classes hloaded hk hm) (self_not_mem_params hcompiled hk hm)

/-- Methods named by keywords, a static method with a parameter named like a receiver, and a
container. -/
def keywordsManifest : Manifest where
  symbolPrefix := "_"
  classes := [("Url", {
    copyCtor := .generated
    methods := [
      ("delete", { params := [("other", "Url*"), ("new_", "int")], isConst := true }),
      ("static_cast", { params := [("self", "Url const*")], isStatic := true })] })]
  containers := [("UrlList", { native := "Url", foreign := "Url" })]

theorem declarable_keywordsManifest :
    ∃ c model, keywordsManifest.compile = .ok c ∧ c.model = some model
      ∧ "delete" ∈ nativeKeywords ∧ "static_cast" ∈ nativeKeywords
      ∧ (∃ k ∈ model.classes, (k.abi "_").map (·.prototype) = [
        "void __Url_destroy(Url* self)",
        "void __Url_clone(Url const* self, Url* new_)",
        "void __Url_delete(Url const* self, Url* other, int new_)",
        "void __Url_static_cast(Url const* self)"])
      ∧ ∀ k ∈ model.classes, ∀ f ∈ k.abi "_", f.Declarable := by
  have hloaded : keywordsManifest.Loaded := by decide
  have hcompiled : keywordsManifest.compile = .ok keywordsManifest.compiled := rfl
  obtain ⟨model, hmodel, hdeclarable⟩ := declarable_of_compile hloaded hcompiled
  refine ⟨_, model, hcompiled, hmodel, by decide, by decide, ?_, ?_⟩
  · cases hmodel
    exact ⟨_, List.mem_cons_self, rfl⟩
  · cases hmodel
    exact hdeclarable

end Manifest

end ClassBridge
