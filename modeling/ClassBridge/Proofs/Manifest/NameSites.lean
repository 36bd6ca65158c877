import ClassBridge.Proofs.Manifest.Loaded

/-!
# The first bad name

`Manifest.nameSites` lists every name of a manifest that the generated code spells, in the order of
a reader who takes a class with all that is in it before the next one.  The check of the names is a
walk along this list (`checkNames_eq`), so it ends with the first site whose name is bad.

**Problems.**  `NameSite.Suffers` says what is wrong with the name of a site.  A keyword is an
identifier, so no name has two problems, and a name without one fits
(`NameSite.problem?_eq_none_iff`).

**Contexts.**  An error says what its site is called: the kind of the name and, inside a class or a
method, the names of what encloses it.
-/

namespace ClassBridge

namespace Identifier

/-- What a name has to look like to have a defect. -/
def HasDefect (name : String) : Defect → Prop
  | .empty => name = ""
  | .badStart => ∃ c rest, name.toList = c :: rest ∧ isStart c = false
  | .badCharacter => ∃ c rest, name.toList = c :: rest ∧ isStart c = true
    ∧ ∃ d ∈ rest, isFollower d = false

lemma defect?_eq_some_iff {name : String} {defect : Defect} :
    defect? name = some defect ↔ HasDefect name defect := by
  have hempty : name = "" ↔ name.toList = [] := String.toList_eq_nil_iff.symm
  unfold defect?
  cases hlist : name.toList with
  | nil => cases defect <;> simp [HasDefect, hempty, hlist]
  | cons c rest =>
      cases hstart : isStart c with
      | false => cases defect <;> simp [HasDefect, hempty, hlist, hstart]
      | true =>
          by_cases hrest : rest.all isFollower = true
          · cases defect <;> simp_all [HasDefect]
          · cases defect <;> simp_all [HasDefect]

/-- A keyword is an identifier. -/
lemma wellFormed_of_mem_keywords {name : String} (h : name ∈ nativeKeywords) :
    WellFormed name := by
  have hall : ∀ keyword ∈ nativeKeywords, defect? keyword = none := by decide
  exact defect?_eq_none_iff.mp (hall name h)

end Identifier

open Identifier

/-- A name of a manifest, with the names of what encloses it. -/
inductive NameSite where
  | symbolPrefix (name : String)
  | classItself (name : String)
  | field (inClass name : String)
  | method (inClass name : String)
  | param (inClass inMethod name : String)
  | container (name : String)
  deriving DecidableEq, Repr

namespace NameSite

/-- The name that stands there. -/
def name : NameSite → String
  | symbolPrefix name => name
  | classItself name => name
  | field _ name => name
  | method _ name => name
  | param _ _ name => name
  | container name => name

/-- What the name names, and where. -/
def context : NameSite → String
  | symbolPrefix _ => "prefix"
  | classItself _ => "class"
  | field inClass _ => "layout field in '" ++ inClass ++ "'"
  | method inClass _ => "method in '" ++ inClass ++ "'"
  | param inClass inMethod _ => "parameter in '" ++ inClass ++ "." ++ inMethod ++ "'"
  | container _ => "container"

/-- Whether the generated code spells the name on its own. -/
def standsAlone : NameSite → Bool
  | method _ _ => false
  | _ => true

/-- The name may stand there. -/
def Fits (site : NameSite) : Prop :=
  WellFormed site.name ∧ (site.standsAlone = true → site.name ∉ nativeKeywords)

/-- What is wrong with the name. -/
def Suffers (site : NameSite) : NameProblem → Prop
  | .keyword => site.standsAlone = true ∧ site.name ∈ nativeKeywords
  | .invalid defect => HasDefect site.name defect

/-- The problem of the name, if it has one. -/
def problem? (site : NameSite) : Option NameProblem :=
  if site.standsAlone && isNativeKeyword site.name then some .keyword
  else (defect? site.name).map .invalid

lemma problem?_eq_some_iff {site : NameSite} {problem : NameProblem} :
    site.problem? = some problem ↔ site.Suffers problem := by
  unfold problem?
  cases hkeyword : site.standsAlone && isNativeKeyword site.name with
  | true =>
      rw [Bool.and_eq_true, isNativeKeyword_eq_true_iff] at hkeyword
      have hnone := defect?_eq_none_iff.mpr (wellFormed_of_mem_keywords hkeyword.2)
      cases problem with
      | keyword => simp [Suffers, hkeyword]
      | invalid defect => simp [Suffers, ← defect?_eq_some_iff, hnone]
  | false =>
      have hnot : ¬ (site.standsAlone = true ∧ site.name ∈ nativeKeywords) := by
        rw [← isNativeKeyword_eq_true_iff, ← Bool.and_eq_true, hkeyword]
        exact Bool.false_ne_true
      cases problem with
      | keyword => simp [Suffers, hnot]
      | invalid defect => simp [Suffers, ← defect?_eq_some_iff]

lemma problem?_eq_none_iff {site : NameSite} : site.problem? = none ↔ site.Fits := by
  rw [Fits, ← defect?_eq_none_iff, ← isNativeKeyword_eq_false_iff, problem?]
  cases site.standsAlone <;> cases isNativeKeyword site.name <;> simp

/-- The error about a problem of the name, in the schema of a text. -/
def error (site : NameSite) (text : String) (problem : NameProblem) : NameError :=
  ⟨site.name, site.context, problem, Span.ofName? text site.name⟩

/-- Accepts names that fit. -/
def check (text : String) (site : NameSite) : Except NameError Unit :=
  match site.problem? with
  | some problem => .error (site.error text problem)
  | none => .ok ()

lemma check_eq_ok_iff {text : String} {site : NameSite} : site.check text = .ok () ↔ site.Fits := by
  rw [← problem?_eq_none_iff, check]
  cases site.problem? <;> simp

lemma check_eq_error_iff {text : String} {site : NameSite} {error : NameError} :
    site.check text = .error error
      ↔ ∃ problem, site.Suffers problem ∧ error = site.error text problem := by
  simp only [← problem?_eq_some_iff]
  rw [check]
  cases site.problem? <;> simp [eq_comm]

end NameSite

/-! ## The walk -/

namespace NameScope

variable {scope : NameScope} {kind : String} (site : NameSite)

lemma fail_eq (hcontext : scope.describe kind = site.context) (problem : NameProblem) :
    scope.fail site.name kind problem = site.error scope.text problem := by
  rw [fail, hcontext]
  rfl

/-- A scope and a kind come into the check of a name through what they call it. -/
lemma checkName_eq (hcontext : scope.describe kind = site.context)
    (halone : site.standsAlone = true) :
    scope.checkName site.name kind = site.check scope.text := by
  rw [checkName, checkIdentifier, NameSite.check, NameSite.problem?, halone, Bool.true_and]
  cases isNativeKeyword site.name <;> cases defect? site.name <;> simp [fail_eq site hcontext]

lemma checkIdentifier_eq (hcontext : scope.describe kind = site.context)
    (halone : site.standsAlone = false) :
    scope.checkIdentifier site.name kind = site.check scope.text := by
  rw [checkIdentifier, NameSite.check, NameSite.problem?, halone, Bool.false_and,
    if_neg Bool.false_ne_true]
  cases defect? site.name <;> simp [fail_eq site hcontext]

lemma describe_in_class (text inClass kind : String) :
    (({ text } : NameScope).inside inClass).describe kind = kind ++ " in '" ++ inClass ++ "'" := by
  simp [describe, inside, pathText]

lemma describe_in_method (text inClass inMethod kind : String) :
    ((({ text } : NameScope).inside inClass).inside inMethod).describe kind
      = kind ++ " in '" ++ inClass ++ "." ++ inMethod ++ "'" := by
  simp [describe, inside, pathText, String.append_assoc]

end NameScope

namespace Manifest

/-- The names in a method: its own, then those of its parameters. -/
def methodNames (inClass : String) (method : String × MethodDecl) : List NameSite :=
  .method inClass method.1 :: method.2.params.map fun param => .param inClass method.1 param.1

/-- The names in a class: its own, then those of its fields, then those in each method. -/
def classNames (entry : String × ClassDecl) : List NameSite :=
  .classItself entry.1 :: (entry.2.layout.map fun field => .field entry.1 field.1)
    ++ entry.2.methods.flatMap (methodNames entry.1)

/-- The names in a manifest: the prefix, then those in each class, then those of the containers. -/
def nameSites (manifest : Manifest) : List NameSite :=
  .symbolPrefix manifest.symbolPrefix :: manifest.classes.flatMap classNames
    ++ manifest.containers.map fun entry => .container entry.1

lemma checkMethod_eq (text inClass : String) (method : String × MethodDecl) :
    checkMethod (({ text } : NameScope).inside inClass) method.1 method.2
      = (methodNames inClass method).forM (NameSite.check text) := by
  have hname : (({ text } : NameScope).inside inClass).checkIdentifier method.1 "method"
      = (NameSite.method inClass method.1).check text :=
    NameScope.checkIdentifier_eq (.method inClass method.1)
      (NameScope.describe_in_class text inClass "method") rfl
  have hparam : ∀ param : String × String,
      ((({ text } : NameScope).inside inClass).inside method.1).checkName param.1 "parameter"
        = (NameSite.param inClass method.1 param.1).check text := fun param =>
    NameScope.checkName_eq (.param inClass method.1 param.1)
      (NameScope.describe_in_method text inClass method.1 "parameter") rfl
  rw [checkMethod, methodNames, Check.forM_cons, hname, Check.forM_map]
  simp only [hparam]

lemma checkClass_eq (text : String) (entry : String × ClassDecl) :
    checkClass { text } entry.1 entry.2 = (classNames entry).forM (NameSite.check text) := by
  have hname : ({ text } : NameScope).checkName entry.1 "class"
      = (NameSite.classItself entry.1).check text :=
    NameScope.checkName_eq (.classItself entry.1) rfl rfl
  have hfield : ∀ field : String × String,
      (({ text } : NameScope).inside entry.1).checkName field.1 "layout field"
        = (NameSite.field entry.1 field.1).check text := fun field =>
    NameScope.checkName_eq (.field entry.1 field.1)
      (NameScope.describe_in_class text entry.1 "layout field") rfl
  rw [checkClass, classNames, List.cons_append, Check.forM_cons, Check.forM_append, hname,
    Check.forM_map, Check.forM_flatMap]
  simp only [hfield, checkMethod_eq]

/-- The check of a manifest is a walk along its names. -/
theorem checkNames_eq (manifest : Manifest) (text : String) :
    manifest.checkNames text = manifest.nameSites.forM (NameSite.check text) := by
  have hprefix : ({ text } : NameScope).checkName manifest.symbolPrefix "prefix"
      = (NameSite.symbolPrefix manifest.symbolPrefix).check text :=
    NameScope.checkName_eq (.symbolPrefix manifest.symbolPrefix) rfl rfl
  have hcontainer : ∀ entry : String × Instantiation,
      ({ text } : NameScope).checkName entry.1 "container"
        = (NameSite.container entry.1).check text := fun entry =>
    NameScope.checkName_eq (.container entry.1) rfl rfl
  rw [checkNames, nameSites, List.cons_append, Check.forM_cons, Check.forM_append, hprefix,
    Check.forM_map, Check.forM_flatMap]
  simp only [hcontainer, checkClass_eq]

/-- A walk that fails ends with the first name that does not fit. -/
lemma checkNames_eq_error_iff {manifest : Manifest} {text : String} {error : NameError} :
    manifest.checkNames text = .error error ↔ ∃ before site after problem,
      manifest.nameSites = before ++ site :: after ∧ (∀ earlier ∈ before, earlier.Fits)
        ∧ site.Suffers problem ∧ error = site.error text problem := by
  rw [checkNames_eq, Check.forM_eq_error]
  simp only [NameSite.check_eq_ok_iff, NameSite.check_eq_error_iff]
  constructor
  · rintro ⟨before, site, after, hsites, hbefore, problem, hproblem, herror⟩
    exact ⟨before, site, after, problem, hsites, hbefore, hproblem, herror⟩
  · rintro ⟨before, site, after, problem, hsites, hbefore, hproblem, herror⟩
    exact ⟨before, site, after, hsites, hbefore, problem, hproblem, herror⟩

/-- **The check of the names.**  It accepts a manifest exactly if the prefix and all names of
classes, fields, parameters and containers are identifiers and no keywords, and all names of methods
are identifiers.  Otherwise its error is about the first site, in the order of the walk, whose name
does not fit: the name, what it is called there, and what is wrong with it. -/
theorem checkNames_verdict (manifest : Manifest) (text : String) :
    (manifest.checkNames text = .ok () ↔ manifest.NamesFit)
      ∧ ∀ error, manifest.checkNames text = .error error ↔ ∃ before site after problem,
        manifest.nameSites = before ++ site :: after ∧ (∀ earlier ∈ before, earlier.Fits)
          ∧ site.Suffers problem
          ∧ error = ⟨site.name, site.context, problem, Span.ofName? text site.name⟩ :=
  ⟨checkNames_eq_ok_iff, fun _ => checkNames_eq_error_iff⟩

/-- A parameter is met before the class behind it, and after a method that is named by a keyword. -/
example : ({
    classes := [
      ("A", { methods := [("new", { params := [("x", "int"), ("2y", "int")] })] }), ("class", {})]
    containers := [("", {})] } : Manifest).checkNames ""
    = .error ⟨"2y", "parameter in 'A.new'", .invalid .badStart, none⟩ := rfl

end Manifest

end ClassBridge
