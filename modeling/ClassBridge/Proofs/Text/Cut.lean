import ClassBridge.Text.Cut
import Mathlib.Tactic.Lemma

/-!
# Pieces of a text

The pieces between separators have no separators in them, a separator divides the pieces before it
from those after it, and a text without separators is one piece.
-/

namespace ClassBridge.Text

/-- A piece between separators has no separator in it. -/
lemma not_mem_of_mem_cutAt {separator : Char} {cs piece : List Char}
    (h : piece ∈ cutAt separator cs) : separator ∉ piece := by
  induction cs generalizing piece with
  | nil =>
      rw [cutAt, List.mem_singleton] at h
      subst h
      simp
  | cons c cs ih =>
      unfold cutAt at h
      split at h
      · rcases List.mem_cons.mp h with rfl | h
        · simp
        · exact ih h
      · rename_i hc
        split at h
        · rw [List.mem_singleton] at h
          subst h
          simpa using fun e => hc e.symm
        · rename_i first rest hcut
          rcases List.mem_cons.mp h with rfl | h
          · have hfirst : separator ∉ first := ih (by rw [hcut]; exact List.mem_cons_self)
            simp only [List.mem_cons, not_or]
            exact ⟨fun e => hc e.symm, hfirst⟩
          · exact ih (by rw [hcut]; exact List.mem_cons_of_mem _ h)

/-- A separator divides the pieces before it from those after it. -/
lemma cutAt_append (separator : Char) (xs ys : List Char) :
    cutAt separator (xs ++ separator :: ys) = cutAt separator xs ++ cutAt separator ys := by
  induction xs with
  | nil => simp [cutAt]
  | cons x xs ih =>
      by_cases hx : x = separator
      · simp only [List.cons_append, cutAt, if_pos hx, ih]
      · simp only [List.cons_append, cutAt, if_neg hx, ih]
        obtain ⟨piece, rest, hcut⟩ := List.exists_cons_of_ne_nil (cutAt_ne_nil separator xs)
        simp only [hcut, List.cons_append]

lemma cutAt_of_not_mem {separator : Char} {xs : List Char} (h : separator ∉ xs) :
    cutAt separator xs = [xs] := by
  induction xs with
  | nil => rfl
  | cons x xs ih =>
      rw [List.mem_cons, not_or] at h
      have hx : x ≠ separator := fun e => h.1 e.symm
      simp only [cutAt, if_neg hx, ih h.2]

end ClassBridge.Text
