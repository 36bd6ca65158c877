import ClassBridge.Proofs.Artifact.Gluing
import ClassBridge.Proofs.Interface.Symbols
import ClassBridge.Proofs.Pipeline.Outcome

/-!
# The glue calls what is exported

The glue decides what to write partly by the exported functions and partly by the flags of a class,
and it finds out what to import by scanning the classes once more.  `follows_of_compile` says that
all of this agrees, for every class of a compiled manifest at once.

**Calls.**  The part of a class calls the functions of the class that it is to call, each once and
with one argument for each parameter of its prototype (`FollowsAbi`).  A method may have the symbol
of such a function; no method is called in any other way.  The glue and the interface have the
functions in different orders, so the two lists of operations are compared as sets
(`perm_calledOps`), which is enough because neither repeats an operation.

**Imports.**  What the head imports is what some part uses (`imports_render`, `mentions_part_iff`,
`implements_part_iff`).
-/

namespace ClassBridge.Artifact.Glue

open Code Text Identifier ClassModel

variable {symbolPrefix : String} {c : ClassModel}

/-! ## The parts of the glue -/

/-- The part of the glue that is about a class. -/
def part (symbolPrefix : String) (c : ClassModel) : String :=
  (classScript symbolPrefix c).write indent

lemma isStructured_constructorScript (c : ClassModel) (abi : List AbiFunction) :
    (constructorScript c abi).isStructured = true := by
  unfold constructorScript valueConstructor?
  cases symbolFor? abi .new with
  | some symbol => rfl
  | none =>
      cases symbolFor? abi .init with
      | some symbol => rfl
      | none =>
          cases c.defaultCtor == .trivial && !c.managedObject with
          | true => rfl
          | false => rfl

lemma isStructured_cloneScript (c : ClassModel) (abi : List AbiFunction) :
    (cloneScript c abi).isStructured = true := by
  unfold cloneScript
  dsimp only
  split
  · rfl
  · cases symbolFor? abi .clone <;> cases symbolFor? abi .assign <;> rfl

lemma isStructured_equalityScript (c : ClassModel) (abi : List AbiFunction) :
    (equalityScript c abi).isStructured = true := by
  unfold equalityScript
  cases symbolFor? abi .equals <;> rfl

lemma isStructured_orderScript (c : ClassModel) (abi : List AbiFunction) :
    (orderScript c abi).isStructured = true := by
  unfold orderScript
  cases symbolFor? abi .cmp <;> rfl

lemma isStructured_dropScript (c : ClassModel) (abi : List AbiFunction) :
    (dropScript c abi).isStructured = true := by
  unfold dropScript
  cases symbolFor? abi .destroy <;> rfl

lemma isStructured_classScript (symbolPrefix : String) (c : ClassModel) :
    (classScript symbolPrefix c).isStructured = true := by
  refine Script.isStructured_all ?_
  simp only [List.forall_mem_cons]
  exact ⟨isStructured_constructorScript c _, isStructured_cloneScript c _,
    isStructured_equalityScript c _, isStructured_orderScript c _, isStructured_dropScript c _,
    by simp⟩

/-- The glue consists of a head and of one part for each class. -/
lemma render_eq (model : Model) : render model
    = (head model.settings (needsOrdering model) (needsUninit model)).write indent
      ++ String.join (model.classes.map (part model.settings.symbolPrefix)) := by
  have hhead : (head model.settings (needsOrdering model) (needsUninit model)).isStructured
      = true := rfl
  rw [render, script, Script.write_seq hhead,
    Script.write_each fun c _ => isStructured_classScript _ c]
  rfl

/-! ## Imports -/

/-- The lines above the first empty one.  The import of the raw bindings stands below it. -/
def imports (text : String) : List String := linesBefore "" (readLines text)

/-- The rows above the first empty one. -/
def importRows (ordering uninit : Bool) : List String :=
  ["// GENERATED -- DO NOT EDIT!!"] ++ (if ordering then ["use std::cmp::Ordering;"] else [])
    ++ (if uninit then ["use std::mem::MaybeUninit;"] else [])

lemma rows_head (settings : Settings) (ordering uninit : Bool) :
    (head settings ordering uninit).rows indent 0
      = importRows ordering uninit ++ "" :: [importRaw settings] := by
  cases ordering <;> cases uninit <;>
    simp [head, banner, importRows, Script.all, Script.rows, Script.depthAfter, Indent.pad]

lemma ordering_mem_importRows {ordering uninit : Bool} :
    "use std::cmp::Ordering;" ∈ importRows ordering uninit ↔ ordering = true := by
  cases ordering <;> cases uninit <;> simp [importRows]

lemma uninit_mem_importRows {ordering uninit : Bool} :
    "use std::mem::MaybeUninit;" ∈ importRows ordering uninit ↔ uninit = true := by
  cases ordering <;> cases uninit <;> simp [importRows]

lemma imports_render (model : Model) :
    imports (render model) = importRows (needsOrdering model) (needsUninit model) := by
  have hread : ∀ ordering uninit, ∀ row ∈ importRows ordering uninit,
      FeedFree row ∧ readRow row = row ∧ row ≠ "" := by decide
  rw [imports, render, Script.write_eq, script, Script.rows_seq rfl, rows_head, List.append_assoc]
  exact linesBefore_readLines (by decide) (by decide) (hread _ _) _

/-! ## Prototypes -/

lemma tokens_pointer (hname : WellFormed c.name) :
    tokens c.pointer = [.word c.name, .mark '*'] := by
  rw [pointer, tokens_word_append hname (by decide)]
  rfl

lemma tokens_constPointer (hname : WellFormed c.name) :
    tokens c.constPointer = [.word c.name, .word "const", .mark '*'] := by
  rw [constPointer, tokens_word_append hname (by decide)]
  rfl

lemma tokens_prototype {f : AbiFunction} (hsymbol : WellFormed f.symbol) :
    tokens f.prototype = tokens f.cReturn ++ .word f.symbol :: .mark '('
      :: (tokens (String.intercalate ", " (f.params.map fun p => p.type ++ " " ++ p.name))
        ++ [.mark ')']) := by
  have hblank : Closed (f.cReturn ++ " ") := by
    simp [Closed]
    decide
  have hparenthesis : Closed "(" := by decide
  have hopens : ∀ text, Opens ("(" ++ text) := by
    intro text
    simp [Opens]
    decide
  rw [AbiFunction.prototype, tokens_append_of_open _ (by decide)]
  simp only [String.append_assoc]
  rw [← String.append_assoc, tokens_append_of_closed hblank, tokens_append_of_open _ (by decide),
    tokens_word_append hsymbol (hopens _), tokens_append_of_closed hparenthesis]
  simp
  rfl

lemma tokens_param {type name : String} (hname : WellFormed name) :
    tokens (type ++ " " ++ name) = tokens type ++ [.word name] := by
  have hblank : Closed (type ++ " ") := by
    simp [Closed]
    decide
  rw [tokens_append_of_closed hblank, tokens_append_of_open _ (by decide), tokens_word hname]
  simp
  rfl

lemma tokens_params {params : List AbiParam} (h : ∀ p ∈ params, WellFormed p.name) :
    tokens (String.intercalate ", " (params.map fun p => p.type ++ " " ++ p.name))
      = List.intercalate [.mark ','] (params.map fun p => tokens p.type ++ [.word p.name]) := by
  have hcomma : Closed ", " := by decide
  induction params with
  | nil => rfl
  | cons p params ih =>
      rw [List.forall_mem_cons] at h
      cases params with
      | nil =>
          simp only [List.map_cons, List.map_nil, String.intercalate_singleton, tokens_param h.1]
          simp
      | cons q params =>
          rw [List.map_cons, String.intercalate_cons_of_ne_nil (by simp), String.append_assoc,
            tokens_append_of_open _ (by simp [Opens]; decide), tokens_append_of_closed hcomma,
            tokens_param h.1, ih h.2]
          simp
          rfl

/-- What the tokens of a prototype show. -/
lemma calls_signature (hname : WellFormed c.name) (op : AbiOp) (symbol : String) :
    (findingsFrom none (tokens ((c.result? op).getD "void") ++ .word symbol :: .mark '('
      :: (List.intercalate [.mark ','] ((c.receivers op).map fun r => tokens r.2 ++ [.word r.1])
        ++ [.mark ')']))).filterMap Finding.call? = [⟨symbol, op.arity⟩] := by
  have hpointer := tokens_pointer hname
  have hconst := tokens_constPointer hname
  cases op <;> simp only [receivers, result?, Option.getD_some, Option.getD_none, List.map_cons,
    List.map_nil, hpointer, hconst] <;> rfl

/-- The prototype of a lifecycle function reads as a call with one argument for each parameter. -/
lemma calls_prototype (h : Spelled symbolPrefix c) {f : AbiFunction}
    (hf : f ∈ c.lifecycleFunctions symbolPrefix) :
    calls f.prototype = [⟨f.symbol, f.params.length⟩] := by
  have hop : f.op ∈ AbiOp.lifecycle :=
    c.lifecycleOps_sublist.subset ((mem_lifecycleOps_iff symbolPrefix).mpr ⟨f, hf, rfl⟩)
  have hsymbol : WellFormed f.symbol := by
    rw [symbol_of_mem_abi (List.mem_append_left _ hf)]
    exact h.symbol hop
  have hparams : ∀ p ∈ f.params, WellFormed p.name := by
    rw [eq_of_mem_lifecycleFunctions hf]
    intro p hp
    obtain ⟨r, hr, rfl⟩ := List.mem_map.mp hp
    exact (isName_of_mem_receivers c f.op r hr).1
  have htokens : f.params.map (fun p => tokens p.type ++ [.word p.name])
      = (c.receivers f.op).map fun r => tokens r.2 ++ [.word r.1] := by
    rw [eq_of_mem_lifecycleFunctions hf]
    exact List.map_map
  have hresult : f.cReturn = (c.result? f.op).getD "void" := by
    rw [eq_of_mem_lifecycleFunctions hf]
    rfl
  rw [calls, findings, tokens_prototype hsymbol, tokens_params hparams, htokens, hresult,
    calls_signature h.name, length_params_of_mem_lifecycleFunctions hf]

/-! ## What the part of a class shows -/

section Part

variable (h : Spelled symbolPrefix c)

include h

lemma findings_part : ∃ found, findings (part symbolPrefix c) = found
    ∧ (found.filterMap Finding.call?).filter (fun call => '_' ∈ call.callee.toList)
        = (calledOps c).map (callOf symbolPrefix c)
    ∧ found.filterMap Finding.implementation? = (implementedTraits c).map (·, c.name)
    ∧ found.filterMap Finding.path? = usedPaths c := by
  obtain ⟨found, hreads, hfound⟩ := glues_class h
  rw [← Script.tokens_write _ indent] at hreads
  exact ⟨found, hreads.findings_eq, hfound⟩

lemma calls_part : (calls (part symbolPrefix c)).filter (fun call => '_' ∈ call.callee.toList)
    = (calledOps c).map (callOf symbolPrefix c) := by
  obtain ⟨found, hfindings, hcalls, -, -⟩ := findings_part h
  rw [calls, hfindings, hcalls]

lemma implementations_part :
    implementations (part symbolPrefix c) = (implementedTraits c).map (·, c.name) := by
  obtain ⟨found, hfindings, -, htraits, -⟩ := findings_part h
  rw [implementations, hfindings, htraits]

lemma implements_part_iff {trait : String} :
    (trait, c.name) ∈ implementations (part symbolPrefix c) ↔ trait ∈ implementedTraits c := by
  rw [implementations_part h]
  simp

lemma mentions_iff_mem_usedPaths {first second : String} :
    Mentions (part symbolPrefix c) first second ↔ (first, second) ∈ usedPaths c := by
  obtain ⟨found, hfindings, -, -, hpaths⟩ := findings_part h
  rw [Mentions, hfindings, ← hpaths, Finding.mem_filterMap_path?]

/-- New memory is asked for where a C function fills it. -/
lemma mentions_part_iff : Mentions (part symbolPrefix c) "MaybeUninit" "uninit"
    ↔ (c.provides .init || c.provides .clone) = true := by
  have hconstructor : ("MaybeUninit", "uninit") ∈ constructorPaths c ↔ c.provides .init = true := by
    unfold constructorPaths
    cases hmanaged : c.managedObject <;> cases hdefault : c.defaultCtor <;>
      simp [provides, hmanaged, hdefault]
  have hcopy : ("MaybeUninit", "uninit") ∈ copyPaths c ↔ c.provides .clone = true := by
    unfold copyPaths copyBodyPaths copies
    cases c.provides .clone <;> simp
  have horder : ("MaybeUninit", "uninit") ∉ orderPaths c := by
    unfold orderPaths
    cases c.provides .cmp <;> simp
  rw [mentions_iff_mem_usedPaths h, usedPaths, List.mem_append, List.mem_append, hconstructor,
    hcopy, Bool.or_eq_true, or_iff_left horder]

end Part

/-! ## Called functions -/

/-- Whether the glue calls the function of an operation, if it is exported; objects are assigned to
where they are copied. -/
def isCalled (copied : Bool) : AbiOp → Bool
  | .move => false
  | .method _ => false
  | .assign => copied
  | _ => true

/-- Whether objects are copied, said of the exported functions. -/
def isCopied (symbolPrefix : String) (c : ClassModel) : Bool :=
  (c.abi symbolPrefix).any (·.op == .clone) || c.copyCtor == .trivial

/-- The functions of a class that the glue is to call. -/
def calledFunctions (symbolPrefix : String) (c : ClassModel) : List AbiFunction :=
  (c.abi symbolPrefix).filter fun f => isCalled (isCopied symbolPrefix c) f.op

/-- The calls of functions of a class in the part that is about it. -/
def ownCalls (symbolPrefix : String) (c : ClassModel) : List Call :=
  (calls (part symbolPrefix c)).filter fun call =>
    call.callee ∈ (c.abi symbolPrefix).map (·.symbol)

lemma isCopied_eq (symbolPrefix : String) (c : ClassModel) :
    isCopied symbolPrefix c = copies c := by
  have hclone : (c.abi symbolPrefix).any (·.op == .clone) = c.provides .clone := by
    rw [Bool.eq_iff_iff, ← exports_iff symbolPrefix (by decide)]
    simp
  rw [isCopied, hclone, copies]

lemma mem_calledOps_iff {op : AbiOp} :
    op ∈ calledOps c ↔ c.provides op = true ∧ isCalled (copies c) op = true := by
  simp only [calledOps, List.mem_append, Option.mem_toList, mem_opIf, constructorOp?_eq_some_iff]
  cases op <;> simp [isCalled, provides, and_comm]

/-- The operations that the glue calls are some of the lifecycle, in the order of the glue. -/
lemma calledOps_sublist (c : ClassModel) :
    (calledOps c).Sublist [.init, .new, .clone, .assign, .equals, .cmp, .destroy] :=
  (((c.constructorOp?_sublist.append
    ((opIf_sublist (c.provides .clone) .clone).append
      (opIf_sublist (copies c && c.provides .assign) .assign))).append
    (opIf_sublist (c.provides .equals) .equals)).append
    (opIf_sublist (c.provides .cmp) .cmp)).append (opIf_sublist (c.provides .destroy) .destroy)

/-- No function of a method is called. -/
lemma calledFunctions_eq (symbolPrefix : String) (c : ClassModel) :
    calledFunctions symbolPrefix c
      = (c.lifecycleFunctions symbolPrefix).filter fun f => isCalled (copies c) f.op := by
  have hmethods : (c.methods.map (c.methodFunction symbolPrefix)).filter
      (fun f => isCalled (copies c) f.op) = [] := by
    rw [List.filter_eq_nil_iff]
    intro f hf
    obtain ⟨m, -, rfl⟩ := List.mem_map.mp hf
    simp [methodFunction, isCalled]
  rw [calledFunctions, isCopied_eq, abi, List.filter_append, hmethods, List.append_nil]

lemma mem_calledFunctions_iff {f : AbiFunction} :
    f ∈ calledFunctions symbolPrefix c
      ↔ f ∈ c.lifecycleFunctions symbolPrefix ∧ isCalled (copies c) f.op = true := by
  rw [calledFunctions_eq, List.mem_filter]

/-- The same operations in the order in which the functions are exported. -/
lemma perm_calledOps (symbolPrefix : String) (c : ClassModel) :
    (calledOps c).Perm ((calledFunctions symbolPrefix c).map (·.op)) := by
  have horder : [AbiOp.init, .new, .clone, .assign, .equals, .cmp, .destroy].Nodup := by decide
  have hlifecycle : AbiOp.lifecycle.Nodup := by decide
  have hfunctions : ((calledFunctions symbolPrefix c).map (·.op)).Sublist AbiOp.lifecycle := by
    have hsublist := (List.filter_sublist (p := fun f => isCalled (copies c) f.op)
      (l := c.lifecycleFunctions symbolPrefix)).map (·.op)
    rw [ops_lifecycleFunctions, ← calledFunctions_eq] at hsublist
    exact hsublist.trans c.lifecycleOps_sublist
  refine (List.perm_ext_iff_of_nodup (horder.sublist (calledOps_sublist c))
    (hlifecycle.sublist hfunctions)).mpr fun op => ?_
  simp only [mem_calledOps_iff, List.mem_map, mem_calledFunctions_iff,
    ← mem_lifecycleOps_iff_provides, mem_lifecycleOps_iff symbolPrefix]
  constructor
  · rintro ⟨⟨f, hf, rfl⟩, hcalled⟩
    exact ⟨f, ⟨hf, hcalled⟩, rfl⟩
  · rintro ⟨f, ⟨hf, hcalled⟩, rfl⟩
    exact ⟨⟨f, hf, rfl⟩, hcalled⟩

/-- How a called function is called. -/
lemma callOf_op {f : AbiFunction} (hf : f ∈ calledFunctions symbolPrefix c) :
    callOf symbolPrefix c f.op = ⟨f.symbol, f.params.length⟩ := by
  have hlifecycle := (mem_calledFunctions_iff.mp hf).1
  rw [callOf, symbol_of_mem_abi (List.mem_append_left _ hlifecycle),
    length_params_of_mem_lifecycleFunctions hlifecycle]

lemma ownCalls_eq (h : Spelled symbolPrefix c) :
    ownCalls symbolPrefix c = (calledOps c).map (callOf symbolPrefix c) := by
  have hunderscore : ∀ call : Call, call.callee ∈ (c.abi symbolPrefix).map (·.symbol) →
      '_' ∈ call.callee.toList := by
    intro call hcall
    obtain ⟨f, hf, hcallee⟩ := List.mem_map.mp hcall
    rw [← hcallee, symbol_of_mem_abi hf]
    exact Spelled.underscore_mem symbolPrefix c f.op
  have hown : ∀ op ∈ calledOps c,
      (callOf symbolPrefix c op).callee ∈ (c.abi symbolPrefix).map (·.symbol) := by
    intro op hop
    rw [symbols_abi]
    refine List.mem_map_of_mem (List.mem_append_left _ ?_)
    exact mem_lifecycleOps_iff_provides.mpr (mem_calledOps_iff.mp hop).1
  have hfilter : ownCalls symbolPrefix c
      = ((calls (part symbolPrefix c)).filter (fun call => '_' ∈ call.callee.toList)).filter
        fun call => call.callee ∈ (c.abi symbolPrefix).map (·.symbol) := by
    rw [ownCalls, List.filter_filter]
    refine List.filter_congr fun call _ => ?_
    by_cases hcall : call.callee ∈ (c.abi symbolPrefix).map (·.symbol)
    · simp only [hcall, hunderscore call hcall, decide_true, Bool.and_self]
    · simp only [hcall, decide_false, Bool.false_and]
  rw [hfilter, calls_part h, List.filter_eq_self]
  intro call hcall
  obtain ⟨op, hop, rfl⟩ := List.mem_map.mp hcall
  simpa using hown op hop

/-- Different operations have different suffixes, apart from methods. -/
lemma eq_method_of_suffix_eq {op op' : AbiOp} (hop : op ∈ AbiOp.lifecycle)
    (h : op'.suffix = op.suffix) : op' = op ∨ op' = .method op.suffix := by
  cases op' with
  | method name =>
      rw [← h]
      exact Or.inr rfl
  | _ =>
      refine Or.inl ?_
      have hinjective := List.inj_on_of_nodup_map AbiOp.nodup_suffix_lifecycle
      exact hinjective (by decide) hop h

lemma suffix_eq_of_symbolOf_eq {op op' : AbiOp}
    (h : c.symbolOf symbolPrefix op = c.symbolOf symbolPrefix op') : op.suffix = op'.suffix :=
  append_left_injective (c.symbolHead symbolPrefix) h

/-! ## The glue of a class -/

/-- What the glue of a class has to do with the functions that the class exports. -/
structure FollowsAbi (symbolPrefix : String) (c : ClassModel) : Prop where
  /-- The calls of functions of the class are those of the functions that are to be called, each
  with one argument for each parameter. -/
  calls : (ownCalls symbolPrefix c).Perm
    ((calledFunctions symbolPrefix c).map fun f => ⟨f.symbol, f.params.length⟩)
  once : ((ownCalls symbolPrefix c).map Call.callee).Nodup
  /-- There are as many parameters in the prototype. -/
  prototypes : ∀ f ∈ calledFunctions symbolPrefix c,
    Code.calls f.prototype = [⟨f.symbol, f.params.length⟩]
  /-- The symbol of any other function is called only if it is also the symbol of a function that is
  to be called, and then the other one is a method by that name. -/
  uncalled : ∀ f ∈ c.abi symbolPrefix, f ∉ calledFunctions symbolPrefix c →
    f.symbol ∈ (Code.calls (part symbolPrefix c)).map Call.callee →
    ∃ g ∈ calledFunctions symbolPrefix c, f.op = .method g.op.suffix
  clone : ("Clone", c.name) ∈ implementations (part symbolPrefix c)
    ↔ (∃ f ∈ c.abi symbolPrefix, f.op = .clone) ∨ c.copyCtor = .trivial
  drop : ("Drop", c.name) ∈ implementations (part symbolPrefix c)
    ↔ ∃ f ∈ c.abi symbolPrefix, f.op = .destroy

lemma once_ownCalls (h : Spelled symbolPrefix c) :
    ((ownCalls symbolPrefix c).map Call.callee).Nodup := by
  have hsuffixes : ([AbiOp.init, .new, .clone, .assign, .equals, .cmp, .destroy].map
      AbiOp.suffix).Nodup := by decide
  have hcallees : (ownCalls symbolPrefix c).map Call.callee
      = ((calledOps c).map AbiOp.suffix).map (c.symbolHead symbolPrefix ++ ·) := by
    rw [ownCalls_eq h, List.map_map, List.map_map]
    rfl
  rw [hcallees]
  exact (hsuffixes.sublist ((calledOps_sublist c).map AbiOp.suffix)).map (append_left_injective _)

/-- A symbol that is called is the symbol of a function that is to be called. -/
lemma exists_called (h : Spelled symbolPrefix c) {f : AbiFunction} (hf : f ∈ c.abi symbolPrefix)
    (hcalled : f.symbol ∈ (calls (part symbolPrefix c)).map Call.callee) :
    ∃ g ∈ calledFunctions symbolPrefix c, f.op = g.op ∨ f.op = .method g.op.suffix := by
  obtain ⟨call, hcall, hcallee⟩ := List.mem_map.mp hcalled
  have hown : call ∈ ownCalls symbolPrefix c := by
    rw [ownCalls, List.mem_filter, hcallee]
    exact ⟨hcall, by simpa using ⟨f, hf, rfl⟩⟩
  rw [ownCalls_eq h] at hown
  obtain ⟨op, hop, rfl⟩ := List.mem_map.mp hown
  obtain ⟨g, hg, rfl⟩ := List.mem_map.mp ((perm_calledOps symbolPrefix c).mem_iff.mp hop)
  have hlifecycle : g.op ∈ AbiOp.lifecycle :=
    c.lifecycleOps_sublist.subset (mem_lifecycleOps_iff_provides.mpr (mem_calledOps_iff.mp hop).1)
  rw [symbol_of_mem_abi hf] at hcallee
  exact ⟨g, hg, eq_method_of_suffix_eq hlifecycle (suffix_eq_of_symbolOf_eq hcallee).symm⟩

lemma mem_traitsIf {condition : Bool} {trait : String} {traits : List String} :
    trait ∈ traitsIf condition traits ↔ condition = true ∧ trait ∈ traits := by
  cases condition <;> simp [traitsIf]

lemma eq_default_of_mem_constructorTraits {trait : String} (h : trait ∈ constructorTraits c) :
    trait = "Default" := by
  unfold constructorTraits at h
  split at h
  · simp at h
  · simpa using h

lemma mem_implementedTraits {trait : String} (hdefault : trait ≠ "Default") :
    trait ∈ implementedTraits c
      ↔ copies c = true ∧ trait = "Clone"
        ∨ c.provides .equals = true ∧ (trait = "PartialEq" ∨ trait = "Eq")
        ∨ c.provides .cmp = true ∧ (trait = "PartialOrd" ∨ trait = "Ord")
        ∨ c.provides .destroy = true ∧ trait = "Drop" := by
  have hconstructor : trait ∉ constructorTraits c := fun hmem =>
    hdefault (eq_default_of_mem_constructorTraits hmem)
  simp only [implementedTraits, List.mem_append, mem_traitsIf, hconstructor, false_or, or_assoc,
    List.mem_cons, List.not_mem_nil, or_false]

/-- The glue of a class calls what the class exports. -/
theorem followsAbi (h : Spelled symbolPrefix c) : FollowsAbi symbolPrefix c where
  calls := by
    have hperm := (perm_calledOps symbolPrefix c).map (callOf symbolPrefix c)
    rw [List.map_map] at hperm
    rw [ownCalls_eq h, ← List.map_congr_left fun f hf => callOf_op hf]
    exact hperm
  once := once_ownCalls h
  prototypes f hf := calls_prototype h (mem_calledFunctions_iff.mp hf).1
  uncalled := by
    intro f hf hother hcalled
    obtain ⟨g, hg, hop | hop⟩ := exists_called h hf hcalled
    · refine absurd ?_ hother
      rw [calledFunctions, List.mem_filter, hop, isCopied_eq]
      exact ⟨hf, (mem_calledFunctions_iff.mp hg).2⟩
    · exact ⟨g, hg, hop⟩
  clone := by
    rw [implements_part_iff h, exports_iff symbolPrefix (by decide),
      mem_implementedTraits (by decide)]
    simp [copies]
  drop := by
    rw [implements_part_iff h, exports_iff symbolPrefix (by decide),
      mem_implementedTraits (by decide)]
    simp

/-! ## The whole glue -/

lemma spelled_of_mem_classes {manifest : Manifest} (hloaded : manifest.Loaded)
    (hc : c ∈ (Model.ofManifest manifest).classes) :
    Spelled (Model.ofManifest manifest).settings.symbolPrefix c where
  symbolPrefix := hloaded.namesFit.symbolPrefix.1
  name := (named_of_mem_classes hloaded hc).name.1

lemma fillsMemory_eq (symbolPrefix : String) (c : ClassModel) :
    fillsMemory symbolPrefix c = (c.provides .init || c.provides .clone) := by
  rw [fillsMemory, symbolFor?_lifecycle _ _ (by decide), symbolFor?_lifecycle _ _ (by decide)]
  cases c.provides .init <;> cases c.provides .clone <;> rfl

/-- **The glue follows the interface.**  The glue of a compiled manifest is a head and one part for
each class.  Each part follows what its class exports, and the head imports exactly what the parts
use. -/
theorem follows_of_compile {manifest : Manifest} (hloaded : manifest.Loaded) {c : Compilation}
    (hcompiled : manifest.compile = .ok c) :
    ∃ model, c.model = some model
      ∧ render model = (head model.settings (needsOrdering model) (needsUninit model)).write indent
        ++ String.join (model.classes.map (part model.settings.symbolPrefix))
      ∧ (∀ c ∈ model.classes, FollowsAbi model.settings.symbolPrefix c
        ∧ ((∃ f ∈ c.abi model.settings.symbolPrefix, f.op = .destroy)
          ↔ c.managedObject = false ∧ c.dtor ≠ .trivial))
      ∧ ("use std::mem::MaybeUninit;" ∈ imports (render model) ↔ ∃ c ∈ model.classes,
        Mentions (part model.settings.symbolPrefix c) "MaybeUninit" "uninit")
      ∧ ("use std::cmp::Ordering;" ∈ imports (render model) ↔ ∃ c ∈ model.classes,
        ("Ord", c.name) ∈ implementations (part model.settings.symbolPrefix c)) := by
  refine ⟨Model.ofManifest manifest, Manifest.model_of_compile hcompiled, render_eq _, ?_, ?_, ?_⟩
  · intro c hc
    refine ⟨followsAbi (spelled_of_mem_classes hloaded hc), ?_⟩
    rw [exports_iff _ (by decide)]
    exact generateDtor_iff hc
  · rw [imports_render, uninit_mem_importRows, needsUninit, List.any_eq_true]
    refine exists_congr fun c => and_congr_right fun hc => ?_
    rw [mentions_part_iff (spelled_of_mem_classes hloaded hc), fillsMemory_eq]
  · rw [imports_render, ordering_mem_importRows, needsOrdering, List.any_eq_true]
    refine exists_congr fun c => and_congr_right fun hc => ?_
    rw [implements_part_iff (spelled_of_mem_classes hloaded hc), mem_implementedTraits (by decide)]
    simp [provides]

/-- A class with a method named like one of its lifecycle functions, a class that is copied without
any function, and a class whose objects the host owns. -/
def mixedManifest : Manifest where
  classes := [
    ("Url", {
      copyCtor := .generated, copyAssign := .generated, movable := true, ord := true
      methods := [("clone", { isConst := true }), ("swap", {})] }),
    ("Point", {
      dtor := .trivial, defaultCtor := .trivial, copyCtor := .trivial, copyAssign := .generated }),
    ("Timer", { managedObject := true, managedObjectDefaultCtor := true })]

theorem calls_mixedManifest :
    ∃ c model, mixedManifest.compile = .ok c ∧ c.model = some model
      ∧ (∀ k ∈ model.classes, (ownCalls "ffi" k).Perm
        ((calledFunctions "ffi" k).map fun f => ⟨f.symbol, f.params.length⟩))
      ∧ (model.classes.map fun k => (calledFunctions "ffi" k).map (·.symbol))
        = [["ffi_Url_destroy", "ffi_Url_clone", "ffi_Url_assign", "ffi_Url_cmp"],
          ["ffi_Point_assign"], ["ffi_Timer_new"]] := by
  have hloaded : mixedManifest.Loaded :=
    { classKeys := by decide
      containerKeys := by decide
      layoutKeys := by decide
      methodKeys := by decide
      paramKeys := by decide
      namesChecked := ⟨"", rfl⟩ }
  have hcompiled : mixedManifest.compile = .ok mixedManifest.compiled := rfl
  obtain ⟨model, hmodel, -, hfollows, -, -⟩ := follows_of_compile hloaded hcompiled
  refine ⟨_, model, hcompiled, hmodel, ?_, ?_⟩
  · cases hmodel
    exact fun k hk => (hfollows k hk).1.calls
  · cases hmodel
    rfl

end ClassBridge.Artifact.Glue
