import ClassBridge.Failure
import Mathlib.Tactic.Lemma

/-!
# Sequences of steps

A sequence of steps that may fail ends well when each of its steps does, and otherwise it ends with
the first that fails.  These facts open such a sequence one step at a time, for the two kinds of
steps there are: checks without a state (`Except`) and steps on a state (`Step`).

A step on a state leaves a state behind in either case.  What every step of a sequence keeps, the
sequence keeps (`Step.Keeps`).
-/

namespace ClassBridge

namespace Check

variable {ε α β : Type}

lemma bind_eq_ok {x : Except ε α} {f : α → Except ε β} {b : β} :
    (x >>= f) = .ok b ↔ ∃ a, x = .ok a ∧ f a = .ok b := by
  cases x with
  | error e => simp [bind, Except.bind]
  | ok a => simp [bind, Except.bind]

/-- One check after the other. -/
lemma seq_eq_ok {x y : Except ε Unit} :
    (x >>= fun _ => y) = .ok () ↔ x = .ok () ∧ y = .ok () := by
  rw [bind_eq_ok]
  constructor
  · rintro ⟨⟨⟩, hx, hy⟩
    exact ⟨hx, hy⟩
  · rintro ⟨hx, hy⟩
    exact ⟨(), hx, hy⟩

/-- A check of every item of a list. -/
lemma forM_eq_ok {items : List α} {check : α → Except ε Unit} :
    items.forM check = .ok () ↔ ∀ item ∈ items, check item = .ok () := by
  induction items with
  | nil => simp [List.forM, pure, Except.pure]
  | cons item items ih =>
      show (check item >>= fun _ => items.forM check) = _ ↔ _
      rw [seq_eq_ok, ih, List.forall_mem_cons]

lemma forM_cons {item : α} {items : List α} {check : α → Except ε Unit} :
    (item :: items).forM check = check item >>= fun _ => items.forM check := rfl

lemma forM_append {items more : List α} {check : α → Except ε Unit} :
    (items ++ more).forM check = items.forM check >>= fun _ => more.forM check :=
  List.forM_append

lemma forM_map {items : List α} {part : α → β} {check : β → Except ε Unit} :
    (items.map part).forM check = items.forM fun item => check (part item) :=
  List.forM_map

/-- A check of what the items of a list have, item by item. -/
lemma forM_flatMap {items : List α} {parts : α → List β} {check : β → Except ε Unit} :
    (items.flatMap parts).forM check = items.forM fun item => (parts item).forM check := by
  induction items with
  | nil => rfl
  | cons item items ih => rw [List.flatMap_cons, forM_append, forM_cons, ih]

/-- A check of a list fails with the first item that fails. -/
lemma forM_eq_error {items : List α} {check : α → Except ε Unit} {e : ε} :
    items.forM check = .error e ↔ ∃ before item after, items = before ++ item :: after
      ∧ (∀ earlier ∈ before, check earlier = .ok ()) ∧ check item = .error e := by
  induction items with
  | nil =>
      constructor
      · intro h
        cases h
      · rintro ⟨before, item, after, hnil, -, -⟩
        simp at hnil
  | cons first items ih =>
      show (check first >>= fun _ => items.forM check) = _ ↔ _
      cases hfirst : check first with
      | error e' =>
          show Except.error e' = .error e ↔ _
          constructor
          · rintro ⟨⟩
            exact ⟨[], first, items, rfl, by simp, hfirst⟩
          · rintro ⟨before, item, after, hitems, hbefore, hitem⟩
            cases before with
            | nil =>
                obtain ⟨rfl, -⟩ := List.cons.inj hitems
                rw [← hfirst, hitem]
            | cons second before =>
                obtain ⟨rfl, -⟩ := List.cons.inj hitems
                rw [hbefore first List.mem_cons_self] at hfirst
                cases hfirst
      | ok =>
          show items.forM check = .error e ↔ _
          rw [ih]
          constructor
          · rintro ⟨before, item, after, rfl, hbefore, hitem⟩
            exact ⟨first :: before, item, after, rfl, List.forall_mem_cons.mpr ⟨hfirst, hbefore⟩,
              hitem⟩
          · rintro ⟨before, item, after, hitems, hbefore, hitem⟩
            cases before with
            | nil =>
                obtain ⟨rfl, -⟩ := List.cons.inj hitems
                rw [hitem] at hfirst
                cases hfirst
            | cons second before =>
                obtain ⟨-, rfl⟩ := List.cons.inj hitems
                exact ⟨before, item, after, rfl, fun b hb => hbefore b (List.mem_cons_of_mem _ hb),
                  hitem⟩

end Check

namespace Step

variable {σ α β : Type}

lemma bind_eq_ok {x : Step σ α} {f : α → Step σ β} {s s' : σ} {b : β} :
    (x >>= f) s = .ok b s' ↔ ∃ a s₁, x s = .ok a s₁ ∧ f a s₁ = .ok b s' := by
  show EStateM.bind x f s = _ ↔ _
  unfold EStateM.bind
  cases h : x s with
  | ok a s₁ =>
      constructor
      · intro hf
        exact ⟨a, s₁, rfl, hf⟩
      · rintro ⟨_, _, heq, hf⟩
        cases heq
        exact hf
  | error e s₁ => simp

/-- One step after the other. -/
lemma seq_eq_ok {x : Step σ Unit} {y : Step σ β} {s s' : σ} {b : β} :
    (x >>= fun _ => y) s = .ok b s' ↔ ∃ s₁, x s = .ok () s₁ ∧ y s₁ = .ok b s' := by
  rw [bind_eq_ok]
  constructor
  · rintro ⟨⟨⟩, s₁, hx, hy⟩
    exact ⟨s₁, hx, hy⟩
  · rintro ⟨s₁, hx, hy⟩
    exact ⟨(), s₁, hx, hy⟩

lemma bind_of_ok {x : Step σ α} {f : α → Step σ β} {s s' : σ} {a : α} (h : x s = .ok a s') :
    (x >>= f) s = f a s' := by
  show EStateM.bind x f s = _
  rw [EStateM.bind, h]

lemma pure_eq_ok {a b : α} {s s' : σ} :
    (pure a : Step σ α) s = .ok b s' ↔ a = b ∧ s = s' := by
  show EStateM.Result.ok a s = _ ↔ _
  simp

lemma forM_nil_eq_ok {step : α → Step σ Unit} {s s' : σ} :
    [].forM step s = .ok () s' ↔ s = s' := by
  show (pure () : Step σ Unit) s = _ ↔ _
  simp [pure_eq_ok]

lemma forM_cons_eq_ok {item : α} {items : List α} {step : α → Step σ Unit} {s s' : σ} :
    (item :: items).forM step s = .ok () s'
      ↔ ∃ s₁, step item s = .ok () s₁ ∧ items.forM step s₁ = .ok () s' := by
  show (step item >>= fun _ => items.forM step) s = _ ↔ _
  exact seq_eq_ok

lemma forM_append_eq_ok {items more : List α} {step : α → Step σ Unit} {s s' : σ} :
    (items ++ more).forM step s = .ok () s'
      ↔ ∃ s₁, items.forM step s = .ok () s₁ ∧ more.forM step s₁ = .ok () s' := by
  induction items generalizing s with
  | nil => simp only [List.nil_append, forM_nil_eq_ok, exists_eq_left']
  | cons item items ih =>
      simp only [List.cons_append, forM_cons_eq_ok, ih]
      constructor
      · rintro ⟨s₁, hitem, s₂, hitems, hmore⟩
        exact ⟨s₂, ⟨s₁, hitem, hitems⟩, hmore⟩
      · rintro ⟨s₂, ⟨s₁, hitem, hitems⟩, hmore⟩
        exact ⟨s₁, hitem, s₂, hitems, hmore⟩

lemma bind_eq_error {x : Step σ α} {f : α → Step σ β} {s s' : σ} {e : Failure} :
    (x >>= f) s = .error e s'
      ↔ x s = .error e s' ∨ ∃ a s₁, x s = .ok a s₁ ∧ f a s₁ = .error e s' := by
  show EStateM.bind x f s = _ ↔ _
  unfold EStateM.bind
  cases h : x s with
  | error e₁ s₁ => simp
  | ok a s₁ =>
      constructor
      · intro hf
        exact Or.inr ⟨a, s₁, rfl, hf⟩
      · rintro (heq | ⟨_, _, heq, hf⟩)
        · cases heq
        · cases heq
          exact hf

lemma during_of_ok {step : Step σ α} {s s' : σ} {a : α} (h : step s = .ok a s') (task : Task) :
    Step.during task step s = .ok a s' := by rw [during, h]

lemma during_of_error {step : Step σ α} {s s' : σ} {e : Failure} (h : step s = .error e s')
    (task : Task) : Step.during task step s = .error (.during task e) s' := by rw [during, h]

/-! ## What is kept -/

/-- The state after a step, whether the step ended well or not. -/
def stateAfter : EStateM.Result Failure σ α → σ
  | .ok _ s => s
  | .error _ s => s

/-- What held before a step holds after it, whether it ends well or not. -/
def Keeps (P : σ → Prop) (step : Step σ α) : Prop := ∀ s, P s → P (stateAfter (step s))

variable {P : σ → Prop}

lemma Keeps.of_eq_ok {step : Step σ α} (h : Keeps P step) {s s' : σ} {a : α}
    (hstep : step s = .ok a s') (hs : P s) : P s' := by
  have hafter := h s hs
  rwa [hstep] at hafter

lemma Keeps.of_eq_error {step : Step σ α} (h : Keeps P step) {s s' : σ} {e : Failure}
    (hstep : step s = .error e s') (hs : P s) : P s' := by
  have hafter := h s hs
  rwa [hstep] at hafter

lemma keeps_pure (a : α) : Keeps P (pure a : Step σ α) := fun _ hs => hs

lemma keeps_fail (e : Failure) : Keeps P (fail e : Step σ α) := fun _ hs => hs

/-- The second step is only asked about the results that the first can have. -/
lemma Keeps.bind {x : Step σ α} {f : α → Step σ β} (hx : Keeps P x)
    (hf : ∀ a, (∃ s s', x s = .ok a s') → Keeps P (f a)) : Keeps P (x >>= f) := by
  intro s hs
  show P (stateAfter (EStateM.bind x f s))
  unfold EStateM.bind
  cases h : x s with
  | ok a s₁ => exact hf a ⟨s, s₁, h⟩ s₁ (hx.of_eq_ok h hs)
  | error e s₁ => exact hx.of_eq_error h hs

lemma keeps_forM {items : List α} {step : α → Step σ Unit}
    (h : ∀ item ∈ items, Keeps P (step item)) : Keeps P (items.forM step) := by
  induction items with
  | nil => exact keeps_pure ()
  | cons item items ih =>
      rw [List.forall_mem_cons] at h
      exact h.1.bind fun _ _ => ih h.2

end Step

end ClassBridge
