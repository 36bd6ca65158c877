/-!
# Identifiers of the native interface

Every name that the generated C functions spell has to be a C identifier: an ASCII letter or an
underscore, followed by ASCII letters, digits and underscores.  `Identifier.defect?` names the
first thing wrong with a name, and has nothing to say exactly of the identifiers
(`defect?_eq_none_iff`).  A keyword of C++ is an identifier in this sense and is listed apart.
-/

namespace ClassBridge

/-- The keywords of C++, which cannot name a class, a field or a parameter. -/
def nativeKeywords : List String := [
  "alignas", "alignof", "and", "asm", "auto", "bool", "break", "case", "catch", "char",
  "class", "const", "constexpr", "const_cast", "continue", "decltype", "default", "delete",
  "do", "double", "dynamic_cast", "else", "enum", "explicit", "export", "extern", "false",
  "float", "for", "friend", "goto", "if", "inline", "int", "long", "mutable", "namespace",
  "new", "noexcept", "not", "nullptr", "operator", "or", "private", "protected", "public",
  "register", "reinterpret_cast", "return", "short", "signed", "sizeof", "static",
  "static_assert", "static_cast", "struct", "switch", "template", "this", "throw", "true",
  "try", "typedef", "typeid", "typename", "union", "unsigned", "using", "virtual", "void",
  "volatile", "while"]

/-- Whether a name is a keyword of C++. -/
def isNativeKeyword (name : String) : Bool := nativeKeywords.contains name

theorem isNativeKeyword_eq_true_iff {name : String} :
    isNativeKeyword name = true ↔ name ∈ nativeKeywords := List.contains_iff_mem

theorem isNativeKeyword_eq_false_iff {name : String} :
    isNativeKeyword name = false ↔ name ∉ nativeKeywords := by
  rw [← isNativeKeyword_eq_true_iff, Bool.not_eq_true]

namespace Identifier

/-- A character that may begin an identifier. -/
def isStart (c : Char) : Bool := c.isAlpha || c == '_'

/-- A character that may follow inside an identifier. -/
def isFollower (c : Char) : Bool := c.isAlphanum || c == '_'

/-- What keeps a name from being an identifier. -/
inductive Defect where
  | empty
  | badStart
  | badCharacter
  deriving DecidableEq, Repr

/-- The wording of a defect. -/
def Defect.reason : Defect → String
  | .empty => "name cannot be empty"
  | .badStart => "name must start with a letter or underscore"
  | .badCharacter => "name contains invalid characters"

/-- The first defect of a name, the start being looked at before the rest. -/
def defect? (name : String) : Option Defect :=
  match name.toList with
  | [] => some .empty
  | c :: rest =>
    if isStart c then
      if rest.all isFollower then none else some .badCharacter
    else some .badStart

/-- The shape of an identifier, said of its characters. -/
def WellFormed (name : String) : Prop :=
  ∃ c rest, name.toList = c :: rest ∧ isStart c = true ∧ ∀ d ∈ rest, isFollower d = true

/-- The names without a defect are the identifiers. -/
theorem defect?_eq_none_iff {name : String} : defect? name = none ↔ WellFormed name := by
  unfold defect? WellFormed
  cases name.toList with
  | nil => simp
  | cons c rest =>
    have hshape :
        (∃ d ds, c :: rest = d :: ds ∧ isStart d = true ∧ ∀ x ∈ ds, isFollower x = true)
        ↔ isStart c = true ∧ ∀ x ∈ rest, isFollower x = true := by
      constructor
      · rintro ⟨d, ds, h, hd, hds⟩
        obtain ⟨rfl, rfl⟩ := List.cons.inj h
        exact ⟨hd, hds⟩
      · rintro ⟨hc, hrest⟩
        exact ⟨c, rest, rfl, hc, hrest⟩
    rw [hshape]
    by_cases hs : isStart c = true <;> simp [hs]

end Identifier

end ClassBridge
