import ClassBridge.Model.Declared
import Mathlib.Data.List.Forall2
import Mathlib.Tactic.Lemma

/-!
# Nothing that is declared is lost

The model of the declared classes is all that artifacts see of them.  `classes_declared_eq_iff` says
exactly which declarations it cannot tell apart.

**Resolution.**  `ClassDecl.resolved` spells out the defaults of a declaration: a class without a
native spelling or an include of its own has its name for both, and a result `void` is no result.
A class has the same model before and after (`ClassDecl.model_resolved`).

**Reading back.**  `ClassModel.declaration` reads a declaration off a class of the model.  What it
finds is the resolved form of the declaration that the class was made from
(`ClassDecl.declaration_model`), so nothing else can be forgotten on the way.
-/

namespace ClassBridge

/-! ## Resolution -/

namespace MethodDecl

/-- The result, unless it says that nothing is returned. -/
def result? (decl : MethodDecl) : Option String :=
  match decl.returnType with
  | some type => if Text.trimmed type = "void" then none else some type
  | none => none

/-- The method with a result only if it returns something. -/
def resolved (decl : MethodDecl) : MethodDecl := { decl with returnType := decl.result? }

end MethodDecl

/-- The class with a native spelling and an include, its own name standing for what the schema does
not say. -/
def ClassDecl.resolved (name : String) (decl : ClassDecl) : ClassDecl :=
  { decl with
    methods := decl.methods.map fun method => (method.1, method.2.resolved)
    overwriteName := some (decl.overwriteName.getD name)
    overwriteInclude := some (decl.overwriteInclude.getD name) }

/-! ## Reading back -/

/-- The declaration of a method, read off the model. -/
def MethodModel.declaration (m : MethodModel) : MethodDecl where
  params := m.params.map fun p => (p.name, p.type)
  returnType := m.returnType
  body := m.body
  isConst := m.isConst
  isStatic := m.isStatic

/-- The declaration of a class, read off the model. -/
def ClassModel.declaration (c : ClassModel) : ClassDecl where
  dtor := c.dtor
  defaultCtor := c.defaultCtor
  copyCtor := c.copyCtor
  copyAssign := c.copyAssign
  movable := c.movable
  eq := c.eq
  ord := c.ord
  layout := c.layout
  methods := c.methods.map fun m => (m.name, m.declaration)
  managedObject := c.managedObject
  managedObjectDefaultCtor := c.managedObjectDefaultCtor
  overwriteName := some c.nativeName
  overwriteInclude := some c.includeName

/-! ## Methods -/

namespace MethodDecl

lemma result?_eq_filter (decl : MethodDecl) :
    decl.result? = decl.returnType.filter fun type => !isVoid type := by
  unfold result?
  cases decl.returnType with
  | none => rfl
  | some type =>
      by_cases hvoid : Text.trimmed type = "void" <;> simp [Option.filter, isVoid, hvoid]

/-- What a method returns is not `void` any more. -/
lemma result?_resolved (decl : MethodDecl) : decl.resolved.result? = decl.result? := by
  rw [result?_eq_filter, resolved, result?_eq_filter, Option.filter_filter]
  simp

lemma returnType_model (decl : MethodDecl) (name : String) :
    (decl.model name).returnType = decl.result? :=
  decl.result?_eq_filter.symm

lemma declaration_model (decl : MethodDecl) (name : String) :
    (decl.model name).declaration = decl.resolved := by
  have hparams : (decl.model name).params.map (fun p => (p.name, p.type)) = decl.params := by
    rw [model, List.map_map]
    exact List.map_id _
  rw [MethodModel.declaration, hparams, returnType_model]
  rfl

lemma model_resolved (decl : MethodDecl) (name : String) :
    decl.resolved.model name = decl.model name := by
  rw [model, model, ← result?_eq_filter, ← result?_eq_filter, result?_resolved]
  rfl

end MethodDecl

/-! ## Classes -/

namespace ClassDecl

/-- Reading back undoes the lowering of a class, up to what its declaration leaves to defaults. -/
theorem declaration_model (decl : ClassDecl) (name : String) (origin : Origin) :
    (decl.model name origin).declaration = decl.resolved name := by
  have hmethods : (decl.model name origin).methods.map (fun m => (m.name, m.declaration))
      = decl.methods.map fun method => (method.1, method.2.resolved) := by
    rw [model, List.map_map]
    refine List.map_congr_left fun method _ => ?_
    exact congrArg (Prod.mk method.1) (method.2.declaration_model method.1)
  rw [ClassModel.declaration, hmethods]
  rfl

/-- What a declaration leaves to defaults makes no difference to the model. -/
theorem model_resolved (decl : ClassDecl) (name : String) (origin : Origin) :
    (decl.resolved name).model name origin = decl.model name origin := by
  have hmethods : (decl.resolved name).methods.map (fun method => method.2.model method.1)
      = decl.methods.map fun method => method.2.model method.1 := by
    rw [resolved, List.map_map]
    exact List.map_congr_left fun method _ => method.2.model_resolved method.1
  rw [model, hmethods]
  rfl

/-- Two classes have the same model exactly if they have the same name and the same declaration, up
to what is left to defaults. -/
lemma model_eq_iff {decl decl' : ClassDecl} {name name' : String} {origin : Origin} :
    decl.model name origin = decl'.model name' origin
      ↔ name = name' ∧ decl.resolved name = decl'.resolved name' := by
  constructor
  · intro h
    refine ⟨congrArg ClassModel.name h, ?_⟩
    rw [← decl.declaration_model name origin, h, declaration_model]
  · rintro ⟨rfl, h⟩
    rw [← decl.model_resolved, h, model_resolved]

end ClassDecl

/-- **Nothing declared is lost.**  Two manifests have the same declared classes in their models
exactly if their tables of classes have the same names in the same order, and the declarations under
a name agree in everything once their defaults are spelled out. -/
theorem classes_declared_eq_iff (manifest manifest' : Manifest) :
    (Model.declared manifest).classes = (Model.declared manifest').classes
      ↔ List.Forall₂
          (fun entry entry' =>
            entry.1 = entry'.1 ∧ entry.2.resolved entry.1 = entry'.2.resolved entry'.1)
          manifest.classes manifest'.classes := by
  have hentries : (fun entry entry' : String × ClassDecl =>
        entry.2.model entry.1 .declared = entry'.2.model entry'.1 .declared)
      = fun entry entry' =>
        entry.1 = entry'.1 ∧ entry.2.resolved entry.1 = entry'.2.resolved entry'.1 := by
    funext entry entry'
    exact propext ClassDecl.model_eq_iff
  rw [Model.declared, Model.declared, ← List.forall₂_eq_eq_eq, List.forall₂_map_left_iff,
    List.forall₂_map_right_iff, hentries]

/-- What may be left out of a declaration, and what may be added to it. -/
example :
    (Model.declared { classes :=
      [("Url", { methods := [("clear", { returnType := some " void" })] })] }).classes
    = (Model.declared { classes :=
      [("Url", { methods := [("clear", {})], overwriteName := some "Url" })] }).classes := by
  decide

end ClassBridge
