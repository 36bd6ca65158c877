import ClassBridge.Proofs.Interface.Operations
import ClassBridge.Proofs.Model.Names
import ClassBridge.Proofs.Text.Lines

/-!
# Prototypes

The prototype of an exported function is one line that begins at the margin and ends in a closing
parenthesis (`IsPrototype`), provided that the types a schema spells have no line feeds and that no
result is empty or indented (`Manifest.PlainSpellings`).  Identifiers need no such proviso.

The prototypes of a model do not depend on the bodies of its methods (`prototypes_withBodies`).
-/

namespace ClassBridge

open Text Identifier

/-- The text begins, and not with a space. -/
def AtMargin (text : String) : Prop := text.toList ≠ [] ∧ text.toList.head? ≠ some ' '

instance (text : String) : Decidable (AtMargin text) := inferInstanceAs (Decidable (_ ∧ _))

/-- A text that may stand as the result of a prototype. -/
structure IsPlainResult (text : String) : Prop where
  feedFree : FeedFree text
  atMargin : AtMargin text

instance (text : String) : Decidable (IsPlainResult text) :=
  decidable_of_iff (FeedFree text ∧ AtMargin text)
    ⟨fun h => ⟨h.1, h.2⟩, fun h => ⟨h.feedFree, h.atMargin⟩⟩

/-- The shape of a prototype. -/
structure IsPrototype (text : String) : Prop where
  feedFree : FeedFree text
  atMargin : AtMargin text
  closed : text.toList.getLast? = some ')'

lemma AtMargin.append {text : String} (h : AtMargin text) (more : String) :
    AtMargin (text ++ more) := by
  obtain ⟨hne, hhead⟩ := h
  rw [AtMargin, String.toList_append, List.head?_append_of_ne_nil _ hne]
  exact ⟨List.append_ne_nil_of_left_ne_nil hne _, hhead⟩

lemma feedFree_of_wellFormed {name : String} (h : WellFormed name) : FeedFree name :=
  not_mem_of_isFollower_eq_false h (by decide)

lemma atMargin_of_wellFormed {name : String} (h : WellFormed name) : AtMargin name := by
  refine ⟨toList_ne_nil h, fun hhead => ?_⟩
  exact not_mem_of_isFollower_eq_false h (by decide) (List.mem_of_mem_head? hhead)

/-- Texts are joined into one line. -/
lemma feedFree_intercalate {separator : String} (hseparator : FeedFree separator)
    {texts : List String} (h : ∀ text ∈ texts, FeedFree text) :
    FeedFree (String.intercalate separator texts) := by
  induction texts with
  | nil =>
      rw [String.intercalate_nil]
      decide
  | cons text texts ih =>
      have hrest : FeedFree (String.intercalate separator texts) :=
        ih fun t ht => h t (List.mem_cons_of_mem _ ht)
      have htext : FeedFree text := h text List.mem_cons_self
      by_cases hnil : texts = []
      · rw [hnil, String.intercalate_singleton]
        exact htext
      · rw [String.intercalate_cons_of_ne_nil hnil, feedFree_append, feedFree_append]
        exact ⟨⟨htext, hseparator⟩, hrest⟩

/-! ## Functions -/

/-- What the types and the parameter names of a function have to be. -/
structure AbiFunction.PlainTypes (f : AbiFunction) : Prop where
  result : ∀ type ∈ f.returnType, IsPlainResult type
  params : ∀ p ∈ f.params, FeedFree p.type ∧ FeedFree p.name

namespace AbiFunction

lemma isPlainResult_cReturn {f : AbiFunction} (h : f.PlainTypes) : IsPlainResult f.cReturn := by
  unfold cReturn
  cases htype : f.returnType with
  | none =>
      show IsPlainResult "void"
      decide
  | some type => exact h.result type htype

/-- Plain spellings make a prototype. -/
theorem isPrototype {f : AbiFunction} (h : f.PlainTypes) (hsymbol : FeedFree f.symbol) :
    IsPrototype f.prototype := by
  have hresult := isPlainResult_cReturn h
  have hparams : FeedFree
      (String.intercalate ", " (f.params.map fun p => p.type ++ " " ++ p.name)) := by
    refine feedFree_intercalate (by decide) ?_
    intro text htext
    obtain ⟨p, hp, rfl⟩ := List.mem_map.mp htext
    have hspace : FeedFree " " := by decide
    simp only [feedFree_append]
    exact ⟨⟨(h.params p hp).1, hspace⟩, (h.params p hp).2⟩
  constructor
  · have hspace : FeedFree " " := by decide
    have hopening : FeedFree "(" := by decide
    have hclosing : FeedFree ")" := by decide
    simp only [prototype, feedFree_append]
    exact ⟨⟨⟨⟨⟨hresult.feedFree, hspace⟩, hsymbol⟩, hopening⟩, hparams⟩, hclosing⟩
  · exact ((((hresult.atMargin.append _).append _).append _).append _).append _
  · rw [prototype, String.toList_append]
    exact List.getLast?_concat

end AbiFunction

/-! ## Methods and classes -/

/-- What the types in a method have to be. -/
structure MethodModel.Plain (m : MethodModel) : Prop where
  result : ∀ type ∈ m.returnType, IsPlainResult type
  params : ∀ p ∈ m.params, FeedFree p.type

/-- What the names and types in a class have to be. -/
structure ClassModel.Plain (c : ClassModel) : Prop where
  named : c.Named
  methods : ∀ m ∈ c.methods, m.Plain

namespace ClassModel

variable {c : ClassModel} {symbolPrefix : String}

lemma feedFree_pointer (h : c.Plain) : FeedFree c.pointer := by
  have hstar : FeedFree "*" := by decide
  exact feedFree_append.mpr ⟨feedFree_of_wellFormed h.named.name.1, hstar⟩

lemma feedFree_constPointer (h : c.Plain) : FeedFree c.constPointer := by
  have hconst : FeedFree " const*" := by decide
  exact feedFree_append.mpr ⟨feedFree_of_wellFormed h.named.name.1, hconst⟩

lemma isPlainResult_pointer (h : c.Plain) : IsPlainResult c.pointer :=
  ⟨feedFree_pointer h, (atMargin_of_wellFormed h.named.name.1).append _⟩

lemma feedFree_suffix (h : c.Plain) {op : AbiOp} (hop : op ∈ c.ops) : FeedFree op.suffix := by
  rcases List.mem_append.mp hop with hop | hop
  · have hall : ∀ op ∈ AbiOp.lifecycle, FeedFree op.suffix := by decide
    exact hall op (c.lifecycleOps_sublist.subset hop)
  · obtain ⟨m, hm, rfl⟩ := List.mem_map.mp hop
    exact feedFree_of_wellFormed (h.named.methods m hm)

lemma feedFree_symbol (h : c.Plain) (hsymbol : WellFormed symbolPrefix) {f : AbiFunction}
    (hf : f ∈ c.abi symbolPrefix) : FeedFree f.symbol := by
  have hop : f.op ∈ c.ops := by
    rw [← c.ops_abi symbolPrefix]
    exact List.mem_map_of_mem hf
  have hunderscore : FeedFree "_" := by decide
  rw [symbol_of_mem_abi hf, symbolOf]
  simp only [feedFree_append]
  exact ⟨⟨⟨⟨feedFree_of_wellFormed hsymbol, hunderscore⟩,
    feedFree_of_wellFormed h.named.name.1⟩, hunderscore⟩, feedFree_suffix h hop⟩

lemma plainTypes_lifecycleFunction {op : AbiOp} {returnType : Option String}
    {receivers : List (String × String)} (hresult : ∀ type ∈ returnType, IsPlainResult type)
    (hreceivers : ∀ r ∈ receivers, FeedFree r.2 ∧ FeedFree r.1) :
    (c.lifecycleFunction symbolPrefix op returnType receivers).PlainTypes := by
  refine ⟨hresult, fun p hp => ?_⟩
  obtain ⟨r, hr, rfl⟩ := List.mem_map.mp hp
  exact hreceivers r hr

/-- The lifecycle functions spell nothing but the class. -/
lemma plainTypes_of_mem_lifecycleFunctions (h : c.Plain) {f : AbiFunction}
    (hf : f ∈ c.lifecycleFunctions symbolPrefix) : f.PlainTypes := by
  have hresult : ∀ op, ∀ type ∈ c.result? op, IsPlainResult type := by
    have hbool : IsPlainResult "bool" := by decide
    have hchar : IsPlainResult "signed char" := by decide
    intro op
    cases op <;> simp [result?, hbool, hchar, isPlainResult_pointer h]
  have hreceivers : ∀ op, ∀ r ∈ c.receivers op, FeedFree r.2 ∧ FeedFree r.1 := by
    have hself : FeedFree "self" := by decide
    have hother : FeedFree "other" := by decide
    have hnew : FeedFree "new_" := by decide
    have hdest : FeedFree "dest" := by decide
    intro op
    cases op <;> simp [receivers, hself, hother, hnew, hdest, feedFree_pointer h,
      feedFree_constPointer h]
  rw [eq_of_mem_lifecycleFunctions hf]
  exact plainTypes_lifecycleFunction (hresult f.op) (hreceivers f.op)

lemma plainTypes_methodFunction (h : c.Plain) {m : MethodModel} (hm : m ∈ c.methods) :
    (c.methodFunction symbolPrefix m).PlainTypes := by
  have hself : FeedFree "self" := by decide
  refine ⟨(h.methods m hm).result, fun p hp => ?_⟩
  rcases List.mem_append.mp hp with hp | hp
  · unfold receiver at hp
    split at hp
    · simp at hp
    · rw [List.mem_singleton] at hp
      rw [hp]
      refine ⟨?_, hself⟩
      show FeedFree (if m.isConst then c.constPointer else c.pointer)
      split
      · exact feedFree_constPointer h
      · exact feedFree_pointer h
  · obtain ⟨q, hq, rfl⟩ := List.mem_map.mp hp
    exact ⟨(h.methods m hm).params q hq, feedFree_of_wellFormed (h.named.params m hm q hq).1⟩

lemma plainTypes_of_mem_abi (h : c.Plain) {f : AbiFunction} (hf : f ∈ c.abi symbolPrefix) :
    f.PlainTypes := by
  rcases List.mem_append.mp hf with hf | hf
  · exact plainTypes_of_mem_lifecycleFunctions h hf
  · obtain ⟨m, hm, rfl⟩ := List.mem_map.mp hf
    exact plainTypes_methodFunction h hm

/-- Every exported function of a plain class has a prototype. -/
theorem isPrototype_of_mem_abi (h : c.Plain) (hsymbol : WellFormed symbolPrefix) {f : AbiFunction}
    (hf : f ∈ c.abi symbolPrefix) : IsPrototype f.prototype :=
  AbiFunction.isPrototype (plainTypes_of_mem_abi h hf) (feedFree_symbol h hsymbol hf)

end ClassModel

/-! ## Bodies -/

namespace ClassModel

/-- The class with other bodies for its methods. -/
def withBodies (c : ClassModel) (bodies : String → String) : ClassModel :=
  { c with methods := c.methods.map fun m => { m with body := bodies m.name } }

/-- What a class exports does not depend on bodies. -/
lemma abi_withBodies (c : ClassModel) (bodies : String → String) (symbolPrefix : String) :
    (c.withBodies bodies).abi symbolPrefix = c.abi symbolPrefix := by
  rw [abi, abi]
  congr 1
  rw [withBodies, List.map_map]
  rfl

lemma plain_withBodies {c : ClassModel} (h : c.Plain) (bodies : String → String) :
    (c.withBodies bodies).Plain := by
  have hnames : (c.withBodies bodies).methods.map (·.name) = c.methods.map (·.name) := by
    rw [withBodies, List.map_map]
    rfl
  constructor
  · refine ⟨h.named.name, ?_, ?_, hnames ▸ h.named.distinct⟩
    · intro m hm
      obtain ⟨m', hm', rfl⟩ := List.mem_map.mp hm
      exact h.named.methods m' hm'
    · intro m hm
      obtain ⟨m', hm', rfl⟩ := List.mem_map.mp hm
      exact h.named.params m' hm'
  · intro m hm
    obtain ⟨m', hm', rfl⟩ := List.mem_map.mp hm
    exact ⟨(h.methods m' hm').result, (h.methods m' hm').params⟩

end ClassModel

/-- What the names and types in a model have to be. -/
structure Model.Plain (model : Model) : Prop where
  symbolPrefix : WellFormed model.settings.symbolPrefix
  classes : ∀ c ∈ model.classes, c.Plain

namespace Model

/-- The prototypes of all exported functions. -/
def prototypes (model : Model) : List String :=
  model.classes.flatMap fun c => (c.abi model.settings.symbolPrefix).map (·.prototype)

/-- The model with other bodies, for each class and each method. -/
def withBodies (model : Model) (bodies : String → String → String) : Model :=
  { model with classes := model.classes.map fun c => c.withBodies (bodies c.name) }

lemma prototypes_withBodies (model : Model) (bodies : String → String → String) :
    (model.withBodies bodies).prototypes = model.prototypes := by
  rw [prototypes, withBodies, List.flatMap_map]
  refine List.flatMap_congr fun c _ => ?_
  rw [ClassModel.abi_withBodies]

lemma plain_withBodies {model : Model} (h : model.Plain) (bodies : String → String → String) :
    (model.withBodies bodies).Plain := by
  refine ⟨h.symbolPrefix, fun c hc => ?_⟩
  obtain ⟨c', hc', rfl⟩ := List.mem_map.mp hc
  exact ClassModel.plain_withBodies (h.classes c' hc') _

end Model

/-! ## Loaded manifests -/

/-- No result, parameter type or element has a line feed, and no result or element is empty or
begins with a space. -/
structure Manifest.PlainSpellings (manifest : Manifest) : Prop where
  results : ∀ entry ∈ manifest.classes, ∀ method ∈ entry.2.methods,
    ∀ type ∈ method.2.returnType, IsPlainResult type
  params : ∀ entry ∈ manifest.classes, ∀ method ∈ entry.2.methods,
    ∀ param ∈ method.2.params, FeedFree param.2
  elements : ∀ entry ∈ manifest.containers, IsPlainResult entry.2.native

lemma MethodDecl.plain_model {decl : MethodDecl} (name : String)
    (hresult : ∀ type ∈ decl.returnType, IsPlainResult type)
    (hparams : ∀ param ∈ decl.params, FeedFree param.2) : (decl.model name).Plain := by
  constructor
  · intro type htype
    exact hresult type (Option.filter_eq_some_iff.mp htype).1
  · intro p hp
    obtain ⟨param, hparam, rfl⟩ := List.mem_map.mp hp
    exact hparams param hparam

/-- The methods of a container are spelled as plainly as its element and its name. -/
lemma Instantiation.plain_of_mem_methods {name element : String} (hname : IsName name)
    (helement : IsPlainResult element) {method : String × MethodDecl}
    (h : method ∈ methods name element) : (method.2.model method.1).Plain := by
  have hconst : FeedFree " const*" := by decide
  have hpointer : FeedFree (element ++ " const*") :=
    feedFree_append.mpr ⟨helement.feedFree, hconst⟩
  have hresult : IsPlainResult (element ++ " const*") := ⟨hpointer, helement.atMargin.append _⟩
  have hother : FeedFree (name ++ " const*") :=
    feedFree_append.mpr ⟨feedFree_of_wellFormed hname.1, hconst⟩
  have hint : IsPlainResult "int" := by decide
  have hsize : FeedFree "int*" := by decide
  have hcount : FeedFree "int" := by decide
  simp only [methods, List.mem_cons, List.not_mem_nil, or_false] at h
  rcases h with rfl | rfl | rfl | rfl | rfl | rfl <;>
    refine MethodDecl.plain_model _ ?_ ?_ <;> simp [*]

/-- Plain spellings in a loaded manifest make a plain model. -/
theorem plain_ofManifest {manifest : Manifest} (hloaded : manifest.Loaded)
    (hplain : manifest.PlainSpellings) : (Model.ofManifest manifest).Plain := by
  refine ⟨hloaded.namesFit.symbolPrefix.1, fun c hc => ⟨named_of_mem_classes hloaded hc, ?_⟩⟩
  intro m hm
  rcases mem_classes_ofManifest.mp hc with ⟨entry, hentry, rfl⟩ | ⟨entry, hentry, rfl⟩
  · obtain ⟨method, hmethod, rfl⟩ := List.mem_map.mp hm
    exact MethodDecl.plain_model _ (hplain.results entry hentry method hmethod)
      (hplain.params entry hentry method hmethod)
  · obtain ⟨method, hmethod, rfl⟩ := List.mem_map.mp hm
    have hcontainer := (mem_freeContainers.mp hentry).1
    exact Instantiation.plain_of_mem_methods (hloaded.namesFit.containers entry hcontainer)
      (hplain.elements entry hcontainer) hmethod

end ClassBridge
