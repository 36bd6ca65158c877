/-!
# Texts cut at a separator

`cutAt` cuts a text at every occurrence of a character.  There is always at least one piece, and
joining the pieces with the separator gives the text back (`joinWith_cutAt`).
-/

namespace ClassBridge.Text

/-- The pieces between the separators; a text with `n` separators has `n + 1` pieces. -/
def cutAt (separator : Char) : List Char → List (List Char)
  | [] => [[]]
  | c :: cs =>
    if c = separator then [] :: cutAt separator cs
    else match cutAt separator cs with
      | [] => [[c]]
      | piece :: rest => (c :: piece) :: rest

/-- Pieces with the separator between them. -/
def joinWith (separator : Char) : List (List Char) → List Char
  | [] => []
  | [piece] => piece
  | piece :: rest => piece ++ separator :: joinWith separator rest

theorem cutAt_ne_nil (separator : Char) : ∀ cs : List Char, cutAt separator cs ≠ []
  | [] => by simp [cutAt]
  | c :: cs => by
    unfold cutAt
    split
    · simp
    · split <;> simp

/-- Cutting a text loses nothing. -/
theorem joinWith_cutAt (separator : Char) (cs : List Char) :
    joinWith separator (cutAt separator cs) = cs := by
  induction cs with
  | nil => rfl
  | cons c cs ih =>
    obtain ⟨piece, rest, h⟩ := List.exists_cons_of_ne_nil (cutAt_ne_nil separator cs)
    by_cases hc : c = separator
    · subst hc
      simp only [cutAt, if_true, h, joinWith, List.nil_append]
      rw [← ih, h]
    · rw [cutAt, if_neg hc, h]
      rw [h] at ih
      cases rest with
      | nil => simpa [joinWith] using ih
      | cons p ps => simpa [joinWith] using ih

end ClassBridge.Text
