import ClassBridge.Proofs.Artifact.FollowsAbi

/-!
# Objects that are copied as bytes

A class whose copy is trivial is copied on the foreign side by reading the bytes of the object
(`copiesBitwise_iff`).  If the glue also destroys the objects of the class, a copy and its original
are both destroyed, although only one of them was ever made.

The glue does not keep the two apart: it takes every lifecycle policy at its word, and a trivial
copy says nothing about the destructor.  So the schema has to.  The classes for which the glue does
both are those with a trivial copy whose objects the bridge destroys
(`copies_and_drops_of_compile`), and containers are not among them.
-/

namespace ClassBridge.Artifact.Glue

open Code Identifier ClassModel

variable {symbolPrefix : String} {c : ClassModel}

/-- How the implementation of a copy begins that reads the bytes of the object. -/
def bitwiseClone (name : String) : List String := [
  "impl Clone for " ++ name ++ " \x7b",
  "#[inline]",
  "fn clone(&self) -> Self \x7b",
  "unsafe \x7b std::ptr::read(self) \x7d",
  "\x7d"]

/-- The glue of a class copies objects as bytes. -/
def CopiesBitwise (symbolPrefix : String) (c : ClassModel) : Prop :=
  Contains (part symbolPrefix c) (bitwiseClone c.name)

/-- The glue of a class destroys objects. -/
def Drops (symbolPrefix : String) (c : ClassModel) : Prop :=
  ("Drop", c.name) ∈ implementations (part symbolPrefix c)

/-! ## Copies -/

/-- Without a C function for it a copy reads the bytes, whatever comes behind it. -/
lemma cloneScript_of_trivial (symbolPrefix : String) (htrivial : c.copyCtor = .trivial) :
    ∃ assignment, cloneScript c (c.abi symbolPrefix) = implementation ("Clone for " ++ c.name)
      (.seq (inlined "fn clone(&self) -> Self" (.line (unchecked "std::ptr::read(self)")))
        assignment) := by
  have hnone : c.provides .clone = false := by simp [provides, htrivial]
  unfold cloneScript
  rw [symbolFor?_lifecycle _ _ (by decide), hnone, htrivial]
  exact ⟨_, rfl⟩

lemma copiesBitwise_of_trivial (symbolPrefix : String) (htrivial : c.copyCtor = .trivial) :
    CopiesBitwise symbolPrefix c := by
  obtain ⟨assignment, hclone⟩ := cloneScript_of_trivial symbolPrefix htrivial
  have hheader : "impl " ++ ("Clone for " ++ c.name) ++ " \x7b"
      = "impl Clone for " ++ c.name ++ " \x7b" := by
    rw [← String.append_assoc]
    rfl
  have hbegins : (bitwiseClone c.name).flatMap tokens
      <+: (cloneScript c (c.abi symbolPrefix)).tokens := by
    refine ⟨assignment.tokens ++ tokens "\x7d", ?_⟩
    simp only [hclone, implementation, inlined, braced, Script.tokens, hheader, bitwiseClone,
      List.flatMap_cons, List.flatMap_nil, List.append_assoc, List.nil_append]
    rfl
  have hscript : cloneScript c (c.abi symbolPrefix) ∈ [constructorScript c (c.abi symbolPrefix),
      cloneScript c (c.abi symbolPrefix), equalityScript c (c.abi symbolPrefix),
      orderScript c (c.abi symbolPrefix), dropScript c (c.abi symbolPrefix)] := by simp
  rw [CopiesBitwise, Contains, part, Script.tokens_write, classScript, Script.tokens_all]
  exact hbegins.isInfix.trans (infix_flatMap hscript Script.tokens)

/-- Where bytes are read there is a path to the function that reads them. -/
lemma mentions_of_copiesBitwise (h : CopiesBitwise symbolPrefix c) :
    Mentions (part symbolPrefix c) "ptr" "read" := by
  have hline : "unsafe \x7b std::ptr::read(self) \x7d" ∈ bitwiseClone c.name := by
    simp [bitwiseClone]
  exact h.mentions hline ⟨tokens "unsafe \x7b std::", tokens "(self) \x7d", rfl⟩

/-- That path is in the glue of a class only for this. -/
lemma read_mem_usedPaths_iff : ("ptr", "read") ∈ usedPaths c ↔ c.copyCtor = .trivial := by
  have hconstructor : ("ptr", "read") ∉ constructorPaths c := by
    unfold constructorPaths
    cases c.managedObject <;> cases c.defaultCtor <;> simp
  have hcopy : ("ptr", "read") ∈ copyPaths c ↔ c.copyCtor = .trivial := by
    unfold copyPaths copyBodyPaths copies
    cases hpolicy : c.copyCtor <;> simp [provides, hpolicy]
  have horder : ("ptr", "read") ∉ orderPaths c := by
    unfold orderPaths
    cases c.provides .cmp <;> simp
  rw [usedPaths, List.mem_append, List.mem_append, hcopy, or_iff_left horder,
    or_iff_right hconstructor]

/-- Objects are copied as bytes exactly if their copy is trivial. -/
theorem copiesBitwise_iff (h : Spelled symbolPrefix c) :
    CopiesBitwise symbolPrefix c ↔ c.copyCtor = .trivial := by
  constructor
  · intro hcopies
    have hmentions := mentions_of_copiesBitwise hcopies
    exact read_mem_usedPaths_iff.mp ((mentions_iff_mem_usedPaths h).mp hmentions)
  · exact copiesBitwise_of_trivial symbolPrefix

/-! ## Compiled manifests -/

/-- Objects are destroyed exactly if the bridge has to do it. -/
theorem drops_iff (h : Spelled symbolPrefix c) {manifest : Manifest}
    (hc : c ∈ (Model.ofManifest manifest).classes) :
    Drops symbolPrefix c ↔ c.managedObject = false ∧ c.dtor ≠ .trivial := by
  rw [Drops, implements_part_iff h, mem_implementedTraits (by decide), ← generateDtor_iff hc]
  simp [provides]

/-- The lifecycle of a declared class is in the model as it is in the schema, and containers are
copied by a C function. -/
lemma forall_trivial_copies_iff {manifest : Manifest} {P : Bool → Lifecycle → Prop} :
    (∀ k ∈ (Model.ofManifest manifest).classes, k.copyCtor = .trivial → P k.managedObject k.dtor)
      ↔ ∀ entry ∈ manifest.classes, entry.2.copyCtor = .trivial →
        P entry.2.managedObject entry.2.dtor := by
  constructor
  · intro h entry hentry
    exact h _ (mem_classes_ofManifest.mpr (Or.inl ⟨entry, hentry, rfl⟩))
  · intro h k hk htrivial
    rcases mem_classes_ofManifest.mp hk with ⟨entry, hentry, rfl⟩ | ⟨entry, -, rfl⟩
    · exact h entry hentry htrivial
    · cases htrivial

/-- Containers are copied by a C function. -/
lemma copyCtor_of_mem_containers {manifest : Manifest}
    (hc : c ∈ (Model.ofManifest manifest).containers) : c.copyCtor = .generated := by
  obtain ⟨hmem, hcontainer⟩ := List.mem_filter.mp hc
  rcases mem_classes_ofManifest.mp hmem with ⟨entry, -, rfl⟩ | ⟨entry, -, rfl⟩
  · cases hcontainer
  · rfl

/-- **Copies as bytes and destructors.**  The glue of a compiled manifest is a head and one part for
each class.  The part of a class copies objects as bytes and also destroys them exactly if their
copy is trivial, their host does not own them and their destructor is not trivial.  So no part does
both exactly if the schema asks for none: each declared class with a trivial copy is managed or has
a trivial destructor.  The part of a container never does both. -/
theorem copies_and_drops_of_compile {manifest : Manifest} (hloaded : manifest.Loaded)
    {compiled : Compilation} (hcompiled : manifest.compile = .ok compiled) :
    ∃ model, compiled.model = some model
      ∧ render model = (head model.settings (needsOrdering model) (needsUninit model)).write indent
        ++ String.join (model.classes.map (part model.settings.symbolPrefix))
      ∧ (∀ k ∈ model.classes,
        (CopiesBitwise model.settings.symbolPrefix k ∧ Drops model.settings.symbolPrefix k)
          ↔ k.copyCtor = .trivial ∧ k.managedObject = false ∧ k.dtor ≠ .trivial)
      ∧ ((∀ k ∈ model.classes,
          ¬ (CopiesBitwise model.settings.symbolPrefix k ∧ Drops model.settings.symbolPrefix k))
        ↔ ∀ entry ∈ manifest.classes, entry.2.copyCtor = .trivial →
          entry.2.managedObject = true ∨ entry.2.dtor = .trivial)
      ∧ ∀ k ∈ model.containers,
        ¬ (CopiesBitwise model.settings.symbolPrefix k
          ∧ Drops model.settings.symbolPrefix k) := by
  have hboth : ∀ k ∈ (Model.ofManifest manifest).classes,
      (CopiesBitwise (Model.ofManifest manifest).settings.symbolPrefix k
        ∧ Drops (Model.ofManifest manifest).settings.symbolPrefix k)
      ↔ k.copyCtor = .trivial ∧ k.managedObject = false ∧ k.dtor ≠ .trivial := by
    intro k hk
    have hspelled := spelled_of_mem_classes hloaded hk
    rw [copiesBitwise_iff hspelled, drops_iff hspelled hk]
  refine ⟨Model.ofManifest manifest, Manifest.model_of_compile hcompiled, render_eq _, hboth, ?_,
    fun k hk hdoes => ?_⟩
  · rw [← forall_trivial_copies_iff (P := fun managed dtor => managed = true ∨ dtor = .trivial)]
    refine forall₂_congr fun k hk => ?_
    rw [hboth k hk]
    cases k.managedObject <;> simp
  · have htrivial := ((hboth k (List.mem_of_mem_filter hk)).mp hdoes).1
    rw [copyCtor_of_mem_containers hk] at htrivial
    cases htrivial

/-- Trivial copies of objects that nobody or only their host destroys. -/
def shallowManifest : Manifest where
  classes := [
    ("Point", { dtor := .trivial, copyCtor := .trivial, copyAssign := .generated }),
    ("Timer", { copyCtor := .trivial, managedObject := true })]
  containers := [("PointList", { native := "Point", foreign := "Point" })]

theorem copies_and_drops_shallowManifest :
    ∃ compiled model, shallowManifest.compile = .ok compiled ∧ compiled.model = some model
      ∧ (model.classes.map fun k => (k.name, k.copyCtor)) = [("Point", .trivial),
        ("Timer", .trivial), ("PointList", .generated)]
      ∧ ∀ k ∈ model.classes, ¬ (CopiesBitwise "ffi" k ∧ Drops "ffi" k) := by
  have hloaded : shallowManifest.Loaded := by decide
  have hcompiled : shallowManifest.compile = .ok shallowManifest.compiled := rfl
  obtain ⟨model, hmodel, -, -, hnever, -⟩ := copies_and_drops_of_compile hloaded hcompiled
  refine ⟨_, model, hcompiled, hmodel, ?_, ?_⟩
  · cases hmodel
    rfl
  · cases hmodel
    exact hnever.mpr (by decide)

/-- A trivial copy of objects that the bridge destroys. -/
def sharedManifest : Manifest where
  classes := [("Url", { copyCtor := .trivial })]

/-- Nothing is found wrong with it, and its glue does both. -/
theorem copies_and_drops_sharedManifest :
    sharedManifest.Loaded
      ∧ ∃ compiled model, sharedManifest.compile = .ok compiled ∧ compiled.model = some model
        ∧ ∃ k ∈ model.classes, CopiesBitwise "ffi" k ∧ Drops "ffi" k := by
  have hloaded : sharedManifest.Loaded := by decide
  have hurl : ClassDecl.model "Url" { copyCtor := .trivial } .declared
      ∈ (Model.ofManifest sharedManifest).classes := List.mem_cons_self
  have hspelled := spelled_of_mem_classes hloaded hurl
  exact ⟨hloaded, sharedManifest.compiled, _, rfl, rfl, _, hurl,
    copiesBitwise_of_trivial "ffi" rfl, (drops_iff hspelled hurl).mpr ⟨rfl, by decide⟩⟩

end ClassBridge.Artifact.Glue
