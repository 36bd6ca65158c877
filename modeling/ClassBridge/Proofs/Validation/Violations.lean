import ClassBridge.Proofs.Model.Names

/-!
# What a manifest may do wrong

A manifest is lawful if no container takes the name of a declared class and no declared method
returns an object that has to be destroyed, is both const and static, or gives a parameter the name
of its receiver (`Manifest.Lawful`).  `Manifest.violations` lists everything that keeps a manifest
from being lawful, by kind and then in the order of the schema, each thing once.

All of this is said of the schema alone: neither models nor lints occur in it.
-/

namespace ClassBridge

/-- A method that a manifest declares, with the class that it belongs to. -/
structure MethodSite where
  className : String
  name : String
  decl : MethodDecl
  deriving DecidableEq, Repr

namespace MethodSite

/-- The method is both const and static. -/
def IsConstStatic (site : MethodSite) : Prop :=
  site.decl.isConst = true ∧ site.decl.isStatic = true

/-- The method has a receiver, and a parameter of that name. -/
def NamesReceiver (site : MethodSite) : Prop :=
  site.decl.isStatic = false ∧ "self" ∈ site.decl.params.map Prod.fst

instance (site : MethodSite) : Decidable site.IsConstStatic := inferInstanceAs (Decidable (_ ∧ _))

instance (site : MethodSite) : Decidable site.NamesReceiver := inferInstanceAs (Decidable (_ ∧ _))

end MethodSite

namespace Manifest

/-- The declared methods, class after class. -/
def methodSites (manifest : Manifest) : List MethodSite :=
  manifest.classes.flatMap fun entry =>
    entry.2.methods.map fun method => ⟨entry.1, method.1, method.2⟩

/-- The name is that of a declared class whose destructor is not trivial, or of a container that
no declared class shares its name with. -/
def NeedsDestructor (manifest : Manifest) (name : String) : Prop :=
  (∃ entry ∈ manifest.classes, entry.1 = name ∧ entry.2.dtor ≠ .trivial)
    ∨ (name ∈ manifest.containers.map Prod.fst ∧ name ∉ manifest.classes.map Prod.fst)

instance (manifest : Manifest) (name : String) : Decidable (manifest.NeedsDestructor name) :=
  inferInstanceAs (Decidable (_ ∨ _))

/-- The method returns an object, by value, that has to be destroyed. -/
def ReturnsByValue (manifest : Manifest) (site : MethodSite) : Prop :=
  ∃ type ∈ site.decl.returnType, manifest.NeedsDestructor (Text.trimmed type)

instance (manifest : Manifest) (site : MethodSite) : Decidable (manifest.ReturnsByValue site) :=
  inferInstanceAs (Decidable (∃ type ∈ site.decl.returnType, _))

/-- A manifest with nothing wrong in it. -/
structure Lawful (manifest : Manifest) : Prop where
  containers : ∀ entry ∈ manifest.containers, entry.1 ∉ manifest.classes.map Prod.fst
  returns : ∀ site ∈ manifest.methodSites, ¬ manifest.ReturnsByValue site
  constStatic : ∀ site ∈ manifest.methodSites, ¬ site.IsConstStatic
  receivers : ∀ site ∈ manifest.methodSites, ¬ site.NamesReceiver

end Manifest

/-! ## Violations -/

/-- One thing wrong with a manifest. -/
inductive Violation where
  | collision (container : String)
  | byValueReturn (site : MethodSite)
  | constStatic (site : MethodSite)
  | receiverName (site : MethodSite)
  deriving DecidableEq, Repr

/-- The report about a violation.  All reports are errors; a collision is found where containers
become classes, and everything else by the lint for it. -/
def Violation.report : Violation → Diagnostic
  | .collision container =>
    { severity := .error
      phase := "expand"
      lint := none
      message := "container '" ++ container ++ "' collides with a declared class"
      location := some ("containers." ++ container) }
  | .byValueReturn site =>
    { severity := .error
      phase := "validate"
      lint := some "non-trivial-return"
      message :=
        "C API does not allow to return non-trivially C++ type " ++ site.decl.returnType.getD ""
      location := some (site.className ++ "." ++ site.name) }
  | .constStatic site =>
    { severity := .error
      phase := "validate"
      lint := some "const-static"
      message := "a static method has no receiver and cannot be const"
      location := some (site.className ++ "." ++ site.name) }
  | .receiverName site =>
    { severity := .error
      phase := "validate"
      lint := some "reserved-param"
      message := "parameter 'self' collides with the method receiver"
      location := some (site.className ++ "." ++ site.name) }

namespace Manifest

/-- Everything wrong with a manifest: collisions in the order of the containers, then for each of
the three demands on methods those that break it. -/
def violations (manifest : Manifest) : List Violation :=
  ((manifest.containers.map Prod.fst).filter
      (· ∈ manifest.classes.map Prod.fst)).map Violation.collision
    ++ (manifest.methodSites.filter (manifest.ReturnsByValue ·)).map Violation.byValueReturn
    ++ (manifest.methodSites.filter MethodSite.IsConstStatic).map Violation.constStatic
    ++ (manifest.methodSites.filter MethodSite.NamesReceiver).map Violation.receiverName

/-- The lawful manifests are those without a violation. -/
lemma violations_eq_nil_iff {manifest : Manifest} :
    manifest.violations = [] ↔ manifest.Lawful := by
  simp only [violations, List.append_eq_nil_iff, List.map_eq_nil_iff, List.filter_eq_nil_iff,
    decide_eq_true_eq, List.forall_mem_map]
  constructor
  · rintro ⟨⟨⟨hcontainers, hreturns⟩, hconst⟩, hreceivers⟩
    exact ⟨hcontainers, hreturns, hconst, hreceivers⟩
  · intro h
    exact ⟨⟨⟨h.containers, h.returns⟩, h.constStatic⟩, h.receivers⟩

/-- Class and method names tell the declared methods apart. -/
lemma nodup_methodSites {manifest : Manifest} (h : manifest.Loaded) :
    manifest.methodSites.Nodup := by
  rw [methodSites, List.nodup_flatMap]
  constructor
  · intro entry hentry
    have hmethods : entry.2.methods.Nodup := (h.methodKeys entry hentry).of_map Prod.fst
    refine hmethods.map ?_
    intro method method' heq
    simp only [MethodSite.mk.injEq, true_and] at heq
    exact Prod.ext heq.1 heq.2
  · have hdistinct : manifest.classes.Pairwise fun a b => a.1 ≠ b.1 :=
      List.pairwise_map.mp h.classKeys
    refine hdistinct.imp fun {a b} hne => ?_
    intro site hin hin'
    obtain ⟨method, -, rfl⟩ := List.mem_map.mp hin
    obtain ⟨method', -, heq⟩ := List.mem_map.mp hin'
    exact hne (congrArg MethodSite.className heq).symm

/-- Nothing is listed twice. -/
theorem nodup_violations {manifest : Manifest} (h : manifest.Loaded) :
    manifest.violations.Nodup := by
  have hsites := nodup_methodSites h
  simp only [violations, List.nodup_append]
  refine ⟨⟨⟨?_, ?_, ?_⟩, ?_, ?_⟩, ?_, ?_⟩
  · exact (h.containerKeys.filter _).map fun _ _ => Violation.collision.inj
  · exact (hsites.filter _).map fun _ _ => Violation.byValueReturn.inj
  · intro a ha b hb
    obtain ⟨_, -, rfl⟩ := List.mem_map.mp ha
    obtain ⟨_, -, rfl⟩ := List.mem_map.mp hb
    simp
  · exact (hsites.filter _).map fun _ _ => Violation.constStatic.inj
  · intro a ha b hb
    obtain ⟨_, -, rfl⟩ := List.mem_map.mp hb
    rcases List.mem_append.mp ha with ha | ha <;> obtain ⟨_, -, rfl⟩ := List.mem_map.mp ha <;> simp
  · exact (hsites.filter _).map fun _ _ => Violation.receiverName.inj
  · intro a ha b hb
    obtain ⟨_, -, rfl⟩ := List.mem_map.mp hb
    rcases List.mem_append.mp ha with ha | ha
    · rcases List.mem_append.mp ha with ha | ha <;>
        obtain ⟨_, -, rfl⟩ := List.mem_map.mp ha <;> simp
    · obtain ⟨_, -, rfl⟩ := List.mem_map.mp ha
      simp

end Manifest

end ClassBridge
