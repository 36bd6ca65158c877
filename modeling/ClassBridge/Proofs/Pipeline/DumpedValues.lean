import Mathlib.Data.List.Basic
import ClassBridge.Pipeline.Snapshot

/-!
# Dumped values

What is dumped of a value says all of it: two values that are dumped as the same one are equal.
Each kind of value is dumped as an object with a member for each of its fields, so this goes up
from the fields to whole snapshots (`Snapshot.json_inj`).
-/

namespace ClassBridge

/-! ## Words, lists and what may be missing -/

@[simp] lemma Severity.name_inj {a b : Severity} : a.name = b.name ↔ a = b := by
  cases a <;> cases b <;> simp [name]

@[simp] lemma Lifecycle.name_inj {a b : Lifecycle} : a.name = b.name ↔ a = b := by
  cases a <;> cases b <;> simp [name]

namespace Json

@[simp] lemma optional_inj {a b : Option String} : optional a = optional b ↔ a = b := by
  cases a <;> cases b <;> simp [optional]

@[simp] lemma strings_inj {a b : List String} : strings a = strings b ↔ a = b := by
  rw [strings, strings, array.injEq, List.map_inj_right fun _ _ => string.inj]

end Json

/-! ## Diagnostics -/

@[simp] lemma Diagnostic.json_inj {d e : Diagnostic} : d.json = e.json ↔ d = e := by
  obtain ⟨severity, phase, lint, message, location⟩ := d
  obtain ⟨severity', phase', lint', message', location'⟩ := e
  -- a lint that is there cannot be taken for the message behind it
  cases lint <;> cases lint' <;> simp [json]

/-! ## Models -/

@[simp] lemma Parameter.json_inj {p q : Parameter} : p.json = q.json ↔ p = q := by
  cases p
  cases q
  simp [json]

@[simp] lemma MethodModel.json_inj {m n : MethodModel} : m.json = n.json ↔ m = n := by
  cases m
  cases n
  simp [json, List.map_inj_right fun _ _ => Parameter.json_inj.mp]

@[simp] lemma Origin.json_inj {o p : Origin} : o.json = p.json ↔ o = p := by
  cases o <;> cases p <;> simp [json]

@[simp] lemma ClassModel.json_inj {c d : ClassModel} : c.json = d.json ↔ c = d := by
  have hlayout {fields others : List (String × String)} :
      fields.map (fun field => Json.strings [field.1, field.2])
        = others.map (fun field => Json.strings [field.1, field.2]) ↔ fields = others :=
    List.map_inj_right fun _ _ => by simp [Prod.ext_iff]
  cases c
  cases d
  simp [json, hlayout, List.map_inj_right fun _ _ => MethodModel.json_inj.mp]

@[simp] lemma Settings.json_inj {s t : Settings} : s.json = t.json ↔ s = t := by
  cases s
  cases t
  simp [json]

@[simp] lemma Model.json_inj {model other : Model} : model.json = other.json ↔ model = other := by
  cases model
  cases other
  simp [json, List.map_inj_right fun _ _ => ClassModel.json_inj.mp]

/-! ## Snapshots -/

/-- A dump says which phase it was made after, and the model and the diagnostics then. -/
theorem Snapshot.json_inj {s t : Snapshot} : s.json = t.json ↔ s = t := by
  obtain ⟨phase, model, diagnostics⟩ := s
  obtain ⟨phase', model', diagnostics'⟩ := t
  -- a model that is there cannot be taken for the diagnostics behind it
  cases model <;> cases model' <;>
    simp [json, List.map_inj_right fun _ _ => Diagnostic.json_inj.mp]

end ClassBridge
