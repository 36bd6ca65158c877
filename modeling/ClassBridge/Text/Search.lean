/-!
# Searching a text

Offsets into a text count UTF-8 bytes.  `byteLength` measures a character list, and `find?` gives
the byte offset of the first place where a pattern stands.
-/

namespace ClassBridge.Text

/-- The number of bytes of the UTF-8 form of a text. -/
def byteLength : List Char → Nat
  | [] => 0
  | c :: cs => c.utf8Size + byteLength cs

@[simp] theorem byteLength_append (xs ys : List Char) :
    byteLength (xs ++ ys) = byteLength xs + byteLength ys := by
  induction xs with
  | nil => simp [byteLength]
  | cons c cs ih => simp [byteLength, ih, Nat.add_assoc]

/-- The byte offset of the first occurrence of `pattern`, if there is one; the empty pattern
stands at the start of every text. -/
def find? (pattern : List Char) : List Char → Option Nat
  | [] => if pattern.isEmpty then some 0 else none
  | c :: cs =>
    if pattern.isPrefixOf (c :: cs) then some 0
    else (find? pattern cs).map (c.utf8Size + ·)

/-- What `find?` gives is the offset of an occurrence. -/
theorem find?_eq_some {pattern text : List Char} {offset : Nat}
    (h : find? pattern text = some offset) :
    ∃ before after, text = before ++ pattern ++ after ∧ byteLength before = offset := by
  induction text generalizing offset with
  | nil =>
    cases pattern with
    | nil => exact ⟨[], [], rfl, by simpa [find?, byteLength] using h⟩
    | cons _ _ => simp [find?] at h
  | cons c cs ih =>
    unfold find? at h
    split at h
    · rename_i hp
      obtain ⟨rest, hr⟩ := List.isPrefixOf_iff_prefix.1 hp
      exact ⟨[], rest, by simp [hr], by simpa [byteLength] using h⟩
    · obtain ⟨n, hn, rfl⟩ := Option.map_eq_some_iff.1 h
      obtain ⟨before, after, ht, hb⟩ := ih hn
      exact ⟨c :: before, after, by simp [ht], by simp [byteLength, hb]⟩

/-- `find?` gives nothing exactly when the pattern stands nowhere in the text. -/
theorem find?_eq_none_iff {pattern text : List Char} :
    find? pattern text = none ↔ ¬ pattern <:+: text := by
  constructor
  · intro h ⟨before, after, ht⟩
    subst ht
    induction before with
    | nil =>
      cases pattern with
      | nil => cases after <;> simp [find?] at h
      | cons p ps => simp [find?] at h
    | cons c cs ih =>
      simp only [List.cons_append] at h
      unfold find? at h
      split at h
      · simp at h
      · exact ih (by simpa using h)
  · intro h
    cases hf : find? pattern text with
    | none => rfl
    | some n =>
      obtain ⟨before, after, ht, _⟩ := find?_eq_some hf
      exact absurd ⟨before, after, ht.symm⟩ h

/-- The text after `start`, if it begins with it. -/
def dropStart? (start : List Char) (cs : List Char) : Option (List Char) :=
  if start.isPrefixOf cs then some (cs.drop start.length) else none

end ClassBridge.Text
