import ClassBridge.Proofs.Interface.Operations
import ClassBridge.Proofs.Model.Names
import ClassBridge.Proofs.Pipeline.Outcome
import Mathlib.Data.List.Pairwise

/-!
# When two functions share a symbol

A symbol is the prefix, the class and the suffix with underscores between them, and all three may
have underscores of their own.  There are exactly two ways for two functions of a model to get the
same symbol.

**Inside a class.**  The class has a method with the name of a lifecycle function that it exports
(`ClassModel.ShadowsLifecycle`).

**Between classes.**  The name of one class goes on, behind an underscore, where the name of another
one ends, and a method of the shorter class spells out what is missing (`ClassModel.Overlaps`).

`symbols_nodup_iff` says that a model without either of them has distinct symbols.  The step that
excludes everything else is `split_of_append_eq`: of two names that meet at an underscore one
continues the other, and a suffix that makes up for the difference has an underscore, which no
lifecycle operation has.
-/

namespace ClassBridge

/-- All exported symbols of a model. -/
def Model.symbols (model : Model) : List String :=
  model.classes.flatMap fun c => (c.abi model.settings.symbolPrefix).map (·.symbol)

namespace ClassModel

/-- A method has the name of a lifecycle function of the same class. -/
def ShadowsLifecycle (symbolPrefix : String) (c : ClassModel) : Prop :=
  ∃ f ∈ c.lifecycleFunctions symbolPrefix, ∃ m ∈ c.methods, m.name = f.op.suffix

/-- The name of `b` continues that of `a` by a rest, and a method of `a` is named by that rest and
by the suffix of a function of `b`. -/
def Overlaps (symbolPrefix : String) (a b : ClassModel) : Prop :=
  ∃ rest suffix : String, b.name = a.name ++ "_" ++ rest
    ∧ (∃ m ∈ a.methods, m.name = rest ++ "_" ++ suffix)
    ∧ ∃ f ∈ b.abi symbolPrefix, f.op.suffix = suffix

/-! ## Inside a class -/

/-- What a symbol begins with. -/
def symbolHead (c : ClassModel) (symbolPrefix : String) : String :=
  symbolPrefix ++ "_" ++ c.name ++ "_"

lemma append_left_injective (head : String) : Function.Injective (head ++ ·) := by
  intro s t h
  apply String.toList_injective
  have hlist := congrArg String.toList h
  simpa using hlist

lemma suffixes_ops (c : ClassModel) :
    c.ops.map AbiOp.suffix
      = c.lifecycleOps.map AbiOp.suffix ++ c.methods.map (·.name) := by
  rw [ops, List.map_append, List.map_map]
  rfl

lemma mem_lifecycleOps_iff {c : ClassModel} (symbolPrefix : String) {op : AbiOp} :
    op ∈ c.lifecycleOps ↔ ∃ f ∈ c.lifecycleFunctions symbolPrefix, f.op = op := by
  rw [← c.ops_lifecycleFunctions symbolPrefix, List.mem_map]

lemma mem_ops_iff {c : ClassModel} (symbolPrefix : String) {op : AbiOp} :
    op ∈ c.ops ↔ ∃ f ∈ c.abi symbolPrefix, f.op = op := by
  rw [← c.ops_abi symbolPrefix, List.mem_map]

lemma exports_iff {c : ClassModel} (symbolPrefix : String) {op : AbiOp}
    (hop : op ∈ AbiOp.lifecycle) :
    (∃ f ∈ c.abi symbolPrefix, f.op = op) ↔ c.provides op = true := by
  rw [← mem_ops_iff, mem_ops_iff_provides hop]

lemma method_mem_ops {c : ClassModel} {m : MethodModel} (h : m ∈ c.methods) :
    AbiOp.method m.name ∈ c.ops :=
  List.mem_append_right _ (List.mem_map_of_mem h)

/-- The symbols of one class are distinct unless a method shadows a lifecycle function. -/
theorem nodup_symbols_iff {c : ClassModel} (h : (c.methods.map (·.name)).Nodup)
    (symbolPrefix : String) :
    ((c.abi symbolPrefix).map (·.symbol)).Nodup ↔ ¬ c.ShadowsLifecycle symbolPrefix := by
  have hsymbols : (c.abi symbolPrefix).map (·.symbol)
      = (c.ops.map AbiOp.suffix).map (c.symbolHead symbolPrefix ++ ·) := by
    rw [symbols_abi, List.map_map]
    rfl
  rw [hsymbols, List.nodup_map_iff (append_left_injective _), suffixes_ops, List.nodup_append]
  constructor
  · rintro ⟨-, -, hdisjoint⟩ ⟨f, hf, m, hm, heq⟩
    have hop : f.op ∈ c.lifecycleOps := (mem_lifecycleOps_iff symbolPrefix).mpr ⟨f, hf, rfl⟩
    exact hdisjoint _ (List.mem_map_of_mem hop) _ (List.mem_map_of_mem hm) heq.symm
  · intro hshadow
    refine ⟨c.nodup_suffix_lifecycleOps, h, ?_⟩
    rintro s hs t ht rfl
    obtain ⟨op, hop, rfl⟩ := List.mem_map.mp hs
    obtain ⟨m, hm, heq⟩ := List.mem_map.mp ht
    obtain ⟨f, hf, rfl⟩ := (mem_lifecycleOps_iff symbolPrefix).mp hop
    exact hshadow ⟨f, hf, m, hm, heq⟩

/-! ## Between classes -/

lemma suffix_method (name : String) : (AbiOp.method name).suffix = name := rfl

/-- Two different names that meet at an underscore: one continues the other, and the suffix of the
shorter one makes up for the difference. -/
lemma split_of_append_eq {a b s t : String} (hne : a ≠ b)
    (h : a ++ "_" ++ s = b ++ "_" ++ t) :
    (∃ r, b = a ++ "_" ++ r ∧ s = r ++ "_" ++ t)
      ∨ ∃ r, a = b ++ "_" ++ r ∧ t = r ++ "_" ++ s := by
  have hlist : a.toList ++ '_' :: s.toList = b.toList ++ '_' :: t.toList := by
    have hchars := congrArg String.toList h
    simpa using hchars
  -- whichever name is longer continues the other one, starting with the underscore they meet at
  rcases List.append_eq_append_iff.mp hlist with ⟨more, hb, hs⟩ | ⟨more, ha, ht⟩
  · cases more with
    | nil =>
        rw [List.append_nil] at hb
        exact absurd (String.toList_injective hb.symm) hne
    | cons c r =>
        obtain ⟨hc, hs⟩ := List.cons.inj hs
        refine Or.inl ⟨String.ofList r, ?_, ?_⟩
        · apply String.toList_injective
          simp [hb, ← hc]
        · apply String.toList_injective
          simp [hs]
  · cases more with
    | nil =>
        rw [List.append_nil] at ha
        exact absurd (String.toList_injective ha) hne
    | cons c r =>
        obtain ⟨hc, ht⟩ := List.cons.inj ht
        refine Or.inr ⟨String.ofList r, ?_, ?_⟩
        · apply String.toList_injective
          simp [ha, ← hc]
        · apply String.toList_injective
          simp [ht]

/-- An operation whose suffix has an underscore is a method. -/
lemma exists_method_of_underscore {c : ClassModel} {op : AbiOp} (hop : op ∈ c.ops)
    (h : '_' ∈ op.suffix.toList) : ∃ m ∈ c.methods, m.name = op.suffix := by
  rcases List.mem_append.mp hop with hop | hop
  · exact absurd h (underscore_not_mem_lifecycleOps hop)
  · obtain ⟨m, hm, rfl⟩ := List.mem_map.mp hop
    exact ⟨m, hm, rfl⟩

lemma overlaps_of_split {a b : ClassModel} {symbolPrefix rest : String} {op op' : AbiOp}
    (hop : op ∈ a.ops) (hop' : op' ∈ b.ops) (hname : b.name = a.name ++ "_" ++ rest)
    (hsuffix : op.suffix = rest ++ "_" ++ op'.suffix) : a.Overlaps symbolPrefix b := by
  have hunderscore : '_' ∈ op.suffix.toList := by simp [hsuffix]
  obtain ⟨m, hm, hmname⟩ := exists_method_of_underscore hop hunderscore
  obtain ⟨f, hf, hfop⟩ := (mem_ops_iff symbolPrefix).mp hop'
  exact ⟨rest, op'.suffix, hname, ⟨m, hm, hmname.trans hsuffix⟩, f, hf, by rw [hfop]⟩

/-- A symbol that two classes share makes them overlap. -/
lemma overlaps_of_symbolOf_eq {a b : ClassModel} {symbolPrefix : String} (hne : a.name ≠ b.name)
    {op op' : AbiOp} (hop : op ∈ a.ops) (hop' : op' ∈ b.ops)
    (h : a.symbolOf symbolPrefix op = b.symbolOf symbolPrefix op') :
    a.Overlaps symbolPrefix b ∨ b.Overlaps symbolPrefix a := by
  have hsame : a.name ++ "_" ++ op.suffix = b.name ++ "_" ++ op'.suffix := by
    apply append_left_injective (symbolPrefix ++ "_")
    simpa [symbolOf, String.append_assoc] using h
  rcases split_of_append_eq hne hsame with ⟨rest, hname, hsuffix⟩ | ⟨rest, hname, hsuffix⟩
  · exact Or.inl (overlaps_of_split hop hop' hname hsuffix)
  · exact Or.inr (overlaps_of_split hop' hop hname hsuffix)

/-- Classes that overlap share a symbol. -/
lemma exists_symbol_of_overlaps {a b : ClassModel} {symbolPrefix : String}
    (h : a.Overlaps symbolPrefix b) :
    ∃ symbol, symbol ∈ (a.abi symbolPrefix).map (·.symbol)
      ∧ symbol ∈ (b.abi symbolPrefix).map (·.symbol) := by
  obtain ⟨rest, suffix, hname, ⟨m, hm, hmname⟩, f, hf, hsuffix⟩ := h
  refine ⟨f.symbol, ?_, List.mem_map_of_mem hf⟩
  have hsymbol : f.symbol = a.symbolOf symbolPrefix (.method m.name) := by
    rw [symbol_of_mem_abi hf]
    simp [symbolOf, hname, hsuffix, suffix_method, hmname, String.append_assoc]
  rw [hsymbol, symbols_abi]
  exact List.mem_map_of_mem (method_mem_ops hm)

lemma ne_of_overlaps {a b : ClassModel} {symbolPrefix : String} (h : a.Overlaps symbolPrefix b) :
    a ≠ b := by
  rintro rfl
  obtain ⟨rest, suffix, hname, -, -⟩ := h
  have hlength := congrArg (fun s => s.toList.length) hname
  simp only [String.toList_append, List.length_append] at hlength
  have hone : ("_" : String).toList.length = 1 := rfl
  omega

end ClassModel

/-- The symbols of a model whose classes and methods have distinct names. -/
theorem Model.nodup_symbols_iff {model : Model} (hnames : (model.classes.map (·.name)).Nodup)
    (hmethods : ∀ c ∈ model.classes, (c.methods.map (·.name)).Nodup) :
    model.symbols.Nodup
      ↔ (∀ c ∈ model.classes, ¬ c.ShadowsLifecycle model.settings.symbolPrefix)
        ∧ ∀ a ∈ model.classes, ∀ b ∈ model.classes,
          ¬ a.Overlaps model.settings.symbolPrefix b := by
  rw [symbols, List.nodup_flatMap]
  refine and_congr (forall₂_congr fun c hc => ClassModel.nodup_symbols_iff (hmethods c hc) _) ?_
  constructor
  · intro hpairwise a ha b hb hoverlap
    have hsymm : Std.Symm (Function.onFun List.Disjoint fun c : ClassModel =>
        (c.abi model.settings.symbolPrefix).map (·.symbol)) := ⟨fun _ _ h _ hb ha => h ha hb⟩
    obtain ⟨symbol, hin, hin'⟩ := ClassModel.exists_symbol_of_overlaps hoverlap
    exact hpairwise.forall ha hb (ClassModel.ne_of_overlaps hoverlap) hin hin'
  · intro hnone
    have hdistinct : model.classes.Pairwise fun a b => a.name ≠ b.name :=
      List.pairwise_map.mp hnames
    refine hdistinct.imp_of_mem fun {a b} ha hb hne => ?_
    -- a common symbol would have to come from an overlap in one of the two directions
    intro symbol hin hin'
    simp only [ClassModel.symbols_abi] at hin hin'
    obtain ⟨op, hop, rfl⟩ := List.mem_map.mp hin
    obtain ⟨op', hop', heq⟩ := List.mem_map.mp hin'
    rcases ClassModel.overlaps_of_symbolOf_eq hne hop hop' heq.symm with h | h
    · exact hnone a ha b hb h
    · exact hnone b hb a ha h

/-- **Distinct symbols.**  The functions of a compiled manifest have distinct symbols exactly if no
method shadows a lifecycle function of its class and no two classes overlap. -/
theorem symbols_nodup_iff {manifest : Manifest} (hloaded : manifest.Loaded) {c : Compilation}
    (hcompiled : manifest.compile = .ok c) :
    ∃ model, c.model = some model
      ∧ (model.symbols.Nodup
        ↔ (¬ ∃ a ∈ model.classes, a.ShadowsLifecycle model.settings.symbolPrefix)
          ∧ ¬ ∃ a ∈ model.classes, ∃ b ∈ model.classes,
            a.Overlaps model.settings.symbolPrefix b) := by
  refine ⟨Model.ofManifest manifest, Manifest.model_of_compile hcompiled, ?_⟩
  rw [Model.nodup_symbols_iff (nodup_names_ofManifest hloaded)
    fun a ha => (named_of_mem_classes hloaded ha).distinct]
  simp only [not_exists, not_and]

/-- Two classes that overlap: a method of the one is named like the destructor of the other. -/
def overlappingManifest : Manifest where
  classes := [("Url", { methods := [("Query_destroy", {})] }), ("Url_Query", {})]

theorem symbols_overlappingManifest :
    ∃ c model, overlappingManifest.compile = .ok c ∧ c.model = some model
      ∧ ¬ model.symbols.Nodup := by
  have hloaded : overlappingManifest.Loaded :=
    { classKeys := by decide
      containerKeys := by decide
      layoutKeys := by decide
      methodKeys := by decide
      paramKeys := by decide
      namesChecked := ⟨"", rfl⟩ }
  have hcompiled : overlappingManifest.compile = .ok overlappingManifest.compiled := rfl
  obtain ⟨model, hmodel, hiff⟩ := symbols_nodup_iff hloaded hcompiled
  refine ⟨_, model, hcompiled, hmodel, fun hnodup => (hiff.mp hnodup).2 ?_⟩
  cases hmodel
  refine ⟨_, List.mem_cons_self, _, List.mem_cons_of_mem _ List.mem_cons_self,
    "Query", "destroy", rfl, ⟨_, List.mem_cons_self, rfl⟩, _, List.mem_cons_self, rfl⟩

end ClassBridge
