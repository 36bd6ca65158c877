import ClassBridge.Manifest.Names
import ClassBridge.Proofs.Sequencing
import Mathlib.Data.List.Nodup

/-!
# Manifests as they are loaded

`Manifest.Loaded` says what every manifest that was read from a schema has: each of its tables has
distinct keys, and the check of its names passed.  `checkNames_eq_ok_iff` puts the second half in
terms of the names alone, so that nothing later depends on the order of the check.  It is decidable
whether a manifest is one (`loaded_iff`).

The characters of an identifier are letters, digits and underscores; all other characters keep a
text from being one (`not_mem_of_isFollower_eq_false`).
-/

namespace ClassBridge

namespace Identifier

/-- An identifier that may stand alone, because it is not a keyword. -/
def IsName (name : String) : Prop := WellFormed name ∧ name ∉ nativeKeywords

lemma isFollower_of_isStart {c : Char} (h : isStart c = true) : isFollower c = true := by
  unfold isStart at h
  unfold isFollower Char.isAlphanum
  rw [Bool.or_eq_true] at h
  rcases h with h | h <;> simp [h]

lemma isFollower_of_mem {name : String} (h : WellFormed name) {c : Char}
    (hc : c ∈ name.toList) : isFollower c = true := by
  obtain ⟨first, rest, hlist, hfirst, hrest⟩ := h
  rw [hlist] at hc
  rcases List.mem_cons.mp hc with rfl | hc
  · exact isFollower_of_isStart hfirst
  · exact hrest c hc

/-- A character that identifiers do not have. -/
lemma not_mem_of_isFollower_eq_false {name : String} (h : WellFormed name) {c : Char}
    (hc : isFollower c = false) : c ∉ name.toList := by
  intro hmem
  rw [isFollower_of_mem h hmem] at hc
  exact Bool.noConfusion hc

lemma toList_ne_nil {name : String} (h : WellFormed name) : name.toList ≠ [] := by
  obtain ⟨first, rest, hlist, -, -⟩ := h
  rw [hlist]
  exact List.cons_ne_nil first rest

/-- An identifier may go on with any of the characters that identifiers have. -/
lemma WellFormed.append {name rest : String} (h : WellFormed name)
    (hrest : ∀ c ∈ rest.toList, isFollower c = true) : WellFormed (name ++ rest) := by
  obtain ⟨first, more, hlist, hfirst, hmore⟩ := h
  refine ⟨first, more ++ rest.toList, ?_, hfirst, ?_⟩
  · rw [String.toList_append, hlist, List.cons_append]
  · intro d hd
    rcases List.mem_append.mp hd with hd | hd
    · exact hmore d hd
    · exact hrest d hd

/-- An identifier ends in one of its characters. -/
lemma getLast?_ne {name : String} (h : WellFormed name) {c : Char} (hc : isFollower c = false) :
    name.toList.getLast? ≠ some c := fun hlast =>
  not_mem_of_isFollower_eq_false h hc (List.mem_of_getLast? hlast)

end Identifier

open Identifier

namespace NameScope

lemma checkIdentifier_eq_ok_iff {scope : NameScope} {name kind : String} :
    scope.checkIdentifier name kind = .ok () ↔ WellFormed name := by
  rw [← defect?_eq_none_iff, checkIdentifier]
  cases defect? name <;> simp

lemma checkName_eq_ok_iff {scope : NameScope} {name kind : String} :
    scope.checkName name kind = .ok () ↔ IsName name := by
  rw [checkName, IsName, ← isNativeKeyword_eq_false_iff]
  cases h : isNativeKeyword name with
  | true => simp
  | false => simpa using checkIdentifier_eq_ok_iff

end NameScope

namespace Manifest

/-- Every name is an identifier, and those that stand alone are not keywords. -/
structure NamesFit (manifest : Manifest) : Prop where
  symbolPrefix : IsName manifest.symbolPrefix
  classes : ∀ entry ∈ manifest.classes, IsName entry.1
  layouts : ∀ entry ∈ manifest.classes, ∀ field ∈ entry.2.layout, IsName field.1
  methods : ∀ entry ∈ manifest.classes, ∀ method ∈ entry.2.methods, WellFormed method.1
  params : ∀ entry ∈ manifest.classes, ∀ method ∈ entry.2.methods,
    ∀ param ∈ method.2.params, IsName param.1
  containers : ∀ entry ∈ manifest.containers, IsName entry.1

lemma checkMethod_eq_ok_iff {scope : NameScope} {name : String} {method : MethodDecl} :
    checkMethod scope name method = .ok ()
      ↔ WellFormed name ∧ ∀ param ∈ method.params, IsName param.1 := by
  rw [checkMethod, Check.seq_eq_ok, Check.forM_eq_ok]
  simp only [NameScope.checkIdentifier_eq_ok_iff, NameScope.checkName_eq_ok_iff]

lemma checkClass_eq_ok_iff {scope : NameScope} {name : String} {decl : ClassDecl} :
    checkClass scope name decl = .ok ()
      ↔ IsName name ∧ (∀ field ∈ decl.layout, IsName field.1)
        ∧ ∀ method ∈ decl.methods,
          WellFormed method.1 ∧ ∀ param ∈ method.2.params, IsName param.1 := by
  rw [checkClass, Check.seq_eq_ok, Check.seq_eq_ok, Check.forM_eq_ok, Check.forM_eq_ok]
  simp only [NameScope.checkName_eq_ok_iff, checkMethod_eq_ok_iff]

/-- The check of the names says nothing exactly if all names fit. -/
theorem checkNames_eq_ok_iff {manifest : Manifest} {text : String} :
    manifest.checkNames text = .ok () ↔ manifest.NamesFit := by
  have hcheck : manifest.checkNames text = .ok () ↔
      IsName manifest.symbolPrefix
        ∧ (∀ entry ∈ manifest.classes, IsName entry.1
            ∧ (∀ field ∈ entry.2.layout, IsName field.1)
            ∧ ∀ method ∈ entry.2.methods,
              WellFormed method.1 ∧ ∀ param ∈ method.2.params, IsName param.1)
        ∧ ∀ entry ∈ manifest.containers, IsName entry.1 := by
    rw [checkNames, Check.seq_eq_ok, Check.seq_eq_ok, Check.forM_eq_ok, Check.forM_eq_ok]
    simp only [NameScope.checkName_eq_ok_iff, checkClass_eq_ok_iff]
  rw [hcheck]
  constructor
  · rintro ⟨hsymbol, hclasses, hcontainers⟩
    exact ⟨hsymbol, fun e he => (hclasses e he).1, fun e he => (hclasses e he).2.1,
      fun e he m hm => ((hclasses e he).2.2 m hm).1,
      fun e he m hm => ((hclasses e he).2.2 m hm).2, hcontainers⟩
  · intro h
    exact ⟨h.symbolPrefix, fun e he => ⟨h.classes e he, h.layouts e he,
      fun m hm => ⟨h.methods e he m hm, h.params e he m hm⟩⟩, h.containers⟩

/-- What every loaded manifest has: distinct keys in every table, and names that passed. -/
structure Loaded (manifest : Manifest) : Prop where
  classKeys : (manifest.classes.map Prod.fst).Nodup
  containerKeys : (manifest.containers.map Prod.fst).Nodup
  layoutKeys : ∀ entry ∈ manifest.classes, (entry.2.layout.map Prod.fst).Nodup
  methodKeys : ∀ entry ∈ manifest.classes, (entry.2.methods.map Prod.fst).Nodup
  paramKeys : ∀ entry ∈ manifest.classes, ∀ method ∈ entry.2.methods,
    (method.2.params.map Prod.fst).Nodup
  namesChecked : ∃ text, manifest.checkNames text = .ok ()

lemma Loaded.namesFit {manifest : Manifest} (h : manifest.Loaded) : manifest.NamesFit := by
  obtain ⟨text, hcheck⟩ := h.namesChecked
  exact checkNames_eq_ok_iff.mp hcheck

/-- The text of the schema is only quoted in messages, so the check of the names may run on any. -/
lemma loaded_iff {manifest : Manifest} : manifest.Loaded ↔
    (manifest.classes.map Prod.fst).Nodup ∧ (manifest.containers.map Prod.fst).Nodup
      ∧ (∀ entry ∈ manifest.classes, (entry.2.layout.map Prod.fst).Nodup)
      ∧ (∀ entry ∈ manifest.classes, (entry.2.methods.map Prod.fst).Nodup)
      ∧ (∀ entry ∈ manifest.classes, ∀ method ∈ entry.2.methods,
        (method.2.params.map Prod.fst).Nodup)
      ∧ (manifest.checkNames "").isOk = true := by
  constructor
  · intro h
    have hcheck : manifest.checkNames "" = .ok () := checkNames_eq_ok_iff.mpr h.namesFit
    refine ⟨h.classKeys, h.containerKeys, h.layoutKeys, h.methodKeys, h.paramKeys, ?_⟩
    rw [hcheck]
    rfl
  · rintro ⟨hclasses, hcontainers, hlayouts, hmethods, hparams, hnames⟩
    refine ⟨hclasses, hcontainers, hlayouts, hmethods, hparams, "", ?_⟩
    cases hcheck : manifest.checkNames "" with
    | error failure =>
        rw [hcheck] at hnames
        cases hnames
    | ok => rfl

instance (manifest : Manifest) : Decidable manifest.Loaded := decidable_of_iff' _ loaded_iff

/-- A name is declared if it is the key of a class. -/
lemma declares_eq_true_iff {manifest : Manifest} {name : String} :
    manifest.declares name = true ↔ name ∈ manifest.classes.map Prod.fst := by
  simp [declares, List.mem_map]

end Manifest

end ClassBridge
