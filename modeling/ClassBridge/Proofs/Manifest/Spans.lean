import ClassBridge.Manifest.Span
import ClassBridge.Proofs.Text.Lines
import ClassBridge.Proofs.Text.Search

/-!
# Spans of names

**Covering.**  A span that is found covers the name: it begins and ends at boundaries of characters
of the text, and the bytes in it are those of the name.  Every form has the name behind a fixed
number of bytes (`skip_eq`), and the search along the lines counts the bytes of the lines that it
passes and of the blanks in front of the name (`inLines?_eq_some`).

**Finding.**  A name without a span stands in none of the forms, and on no line in front of an
equals sign, the blanks at the start of the line and before the sign apart (`ofName?_eq_none_iff`).
-/

namespace ClassBridge

open Text

namespace Span

/-- The span is a piece of the text, and the name is what stands there. -/
structure Covers (span : Span) (text name : String) : Prop where
  start : (⟨span.offset⟩ : String.Pos.Raw).IsValid text
  stop : (⟨span.offset + span.length⟩ : String.Pos.Raw).IsValid text
  bytes : text.toByteArray.extract span.offset (span.offset + span.length) = name.toByteArray

/-- What stands before a name gives the offset of its span. -/
lemma covers_of_eq {text name : String} (before after : List Char)
    (h : text.toList = before ++ name.toList ++ after) :
    Covers ⟨byteLength before, byteLength name.toList⟩ text name := by
  have htext : text = String.ofList before ++ name ++ String.ofList after := by
    apply String.toList_injective
    simp [h]
  rw [byteLength_toList, ← byteLength_ofList, htext]
  refine ⟨?_, ?_, extract_append _ _ _⟩
  · rw [String.append_assoc]
    exact isValid_append _ _
  · rw [← String.utf8ByteSize_append]
    exact isValid_append _ _

/-! ## Forms -/

/-- All forms, in the order in which they are tried. -/
def forms : List Form := headerForms ++ inlineForms

/-- The name stands in the text in a form. -/
def Form.StandsIn (form : Form) (name text : List Char) : Prop := form.pattern name <:+: text

lemma skip_eq {form : Form} (h : form ∈ forms) : form.skip = byteLength form.before.toList := by
  have hall : ∀ form ∈ forms, form.skip = byteLength form.before.toList := by decide
  exact hall form h

lemma covers_of_inForm? {text name : String} {form : Form} (hform : form ∈ forms) {span : Span}
    (h : inForm? text.toList name.toList form = some span) : span.Covers text name := by
  obtain ⟨offset, hoffset, rfl⟩ := Option.map_eq_some_iff.mp h
  obtain ⟨before, after, htext, rfl⟩ := find?_eq_some hoffset
  rw [skip_eq hform, ← byteLength_append]
  exact covers_of_eq _ (form.after.toList ++ after) (by simp [htext, Form.pattern])

lemma inForm?_eq_none_iff {text name : List Char} {form : Form} :
    inForm? text name form = none ↔ ¬ form.StandsIn name text := by
  rw [inForm?, Option.map_eq_none_iff, find?_eq_none_iff, Form.StandsIn]

/-! ## Lines -/

/-- On the line, after all blanks at its start, the name stands in front of an equals sign, with
nothing but blanks between them. -/
def Assigns (name line : List Char) : Prop :=
  ∃ lead gap value, line = lead ++ (name ++ gap ++ '=' :: value)
    ∧ (∀ c ∈ lead, isBlank c = true) ∧ (∀ c ∈ gap, isBlank c = true)
    ∧ ∀ c ∈ (name ++ gap ++ ['=']).head?, isBlank c = false

lemma head?_append_equals (xs value : List Char) :
    (xs ++ '=' :: value).head? = (xs ++ ['=']).head? := by
  simp [List.head?_append]

lemma assigns_iff {name line : List Char} : Assigns name line
    ↔ ∃ rest, trimStart line = name ++ rest ∧ (trimStart rest).head? = some '=' := by
  constructor
  · rintro ⟨lead, gap, value, rfl, hblank, hgap, hfirst⟩
    have hequals : trimStart (gap ++ '=' :: value) = '=' :: value := by
      refine trimStart_eq_iff.mpr ⟨gap, rfl, hgap, ?_⟩
      rintro c ⟨⟩
      decide
    refine ⟨gap ++ '=' :: value, trimStart_eq_iff.mpr ⟨lead, ?_, hblank, ?_⟩, ?_⟩
    · rw [List.append_assoc name]
    · rw [← List.append_assoc, head?_append_equals]
      exact hfirst
    · rw [hequals]
      rfl
  · rintro ⟨rest, htrim, hequals⟩
    obtain ⟨lead, hline, hblank, hfirst⟩ := trimStart_eq_iff.mp htrim
    obtain ⟨value, hvalue⟩ := List.head?_eq_some_iff.mp hequals
    obtain ⟨gap, rfl, hgap, -⟩ := trimStart_eq_iff.mp hvalue
    rw [← List.append_assoc name] at hline hfirst
    rw [head?_append_equals] at hfirst
    exact ⟨lead, gap, value, hline, hblank, hgap, hfirst⟩

lemma trimStart_ne_nil_of_assigns {name line : List Char} (h : Assigns name line) :
    trimStart line ≠ [] := by
  obtain ⟨rest, htrim, hequals⟩ := assigns_iff.mp h
  intro hnil
  rw [htrim, List.append_eq_nil_iff] at hnil
  simp [hnil.2] at hequals

lemma isKeyLine_iff {name line : List Char} : isKeyLine name line = true ↔ Assigns name line := by
  simp only [assigns_iff, ← dropStart?_eq_some_iff]
  unfold isKeyLine
  cases dropStart? name (trimStart line) <;> simp

/-- A line is read in the same way with the line feed that closes it. -/
lemma assigns_append_feed {name line : List Char} :
    Assigns name (line ++ ['\n']) ↔ Assigns name line := by
  constructor
  · rintro ⟨lead, gap, value, hline, hlead, hgap, hfirst⟩
    -- the line feed belongs to the value, since the line does not end with the equals sign
    rcases List.eq_nil_or_concat value with rfl | ⟨value, c, rfl⟩
    · have hlast := congrArg List.getLast? hline
      simp at hlast
    · have hall : line ++ ['\n'] = lead ++ (name ++ gap ++ '=' :: value) ++ [c] := by
        simp [hline]
      exact ⟨lead, gap, value, List.append_inj_left' hall rfl, hlead, hgap, hfirst⟩
  · rintro ⟨lead, gap, value, rfl, hlead, hgap, hfirst⟩
    exact ⟨lead, gap, value ++ ['\n'], by simp, hlead, hgap, hfirst⟩

lemma not_assigns_nil {name : List Char} : ¬ Assigns name [] := by
  rintro ⟨lead, gap, value, hline, -⟩
  simp at hline

/-- The first line that assigns to the name has its span, behind the bytes of the lines before it
and of the blanks at its start. -/
lemma inLines?_eq_some {name : List Char} {offset : Nat} {lines : List (List Char)} {span : Span}
    (h : inLines? name offset lines = some span) :
    ∃ before line after, lines = before ++ line :: after ∧ Assigns name line ∧ span
      = ⟨offset + byteLength (before.flatten ++ line.takeWhile isBlank), byteLength name⟩ := by
  induction lines generalizing offset with
  | nil => cases h
  | cons line lines ih =>
      rw [inLines?] at h
      split at h
      · rename_i hkey
        rw [Option.some_inj] at h
        exact ⟨[], line, lines, rfl, isKeyLine_iff.mp hkey, by rw [← h]; rfl⟩
      · obtain ⟨before, found, after, rfl, hfound, rfl⟩ := ih h
        refine ⟨line :: before, found, after, rfl, hfound, ?_⟩
        simp [Nat.add_assoc]

lemma inLines?_eq_none_iff {name : List Char} {offset : Nat} {lines : List (List Char)} :
    inLines? name offset lines = none ↔ ∀ line ∈ lines, ¬ Assigns name line := by
  induction lines generalizing offset with
  | nil => simp [inLines?]
  | cons line lines ih =>
      rw [inLines?, List.forall_mem_cons, ← isKeyLine_iff]
      split
      · rename_i hkey
        simp [hkey]
      · rename_i hkey
        simp [hkey, ih]

/-! ## The search -/

lemma covers_of_inLines? {text name : String} {span : Span}
    (h : inLines? name.toList 0 (closedLines text.toList) = some span) : span.Covers text name := by
  obtain ⟨before, line, after, hlines, hassigns, rfl⟩ := inLines?_eq_some h
  obtain ⟨rest, htrim, -⟩ := assigns_iff.mp hassigns
  have htext : text.toList = before.flatten ++ line ++ after.flatten := by
    rw [← flatten_closedLines text.toList, hlines]
    simp
  have hline : line = line.takeWhile isBlank ++ (name.toList ++ rest) := by
    rw [← htrim, takeWhile_append_trimStart]
  rw [Nat.zero_add]
  refine covers_of_eq _ (rest ++ after.flatten) ?_
  rw [htext]
  nth_rewrite 1 [hline]
  simp

lemma covers_of_ofName? {text name : String} {span : Span} (h : ofName? text name = some span) :
    span.Covers text name := by
  unfold ofName? at h
  split at h
  · rename_i found hfound
    obtain ⟨form, hform, hspan⟩ := List.exists_of_findSome?_eq_some hfound
    rw [Option.some_inj] at h
    exact covers_of_inForm? hform (h ▸ hspan)
  · exact covers_of_inLines? h

lemma inLines?_closedLines_eq_none_iff {text name : List Char} :
    inLines? name 0 (closedLines text) = none ↔ ∀ line ∈ splitLines text, ¬ Assigns name line := by
  have hsame := exists_mem_closedLines_iff (P := Assigns name) not_assigns_nil
    (fun _ => assigns_append_feed) text
  rw [inLines?_eq_none_iff]
  simpa only [not_exists, not_and] using not_congr hsame

lemma ofName?_eq_none_iff {text name : String} :
    ofName? text name = none ↔ (∀ form ∈ forms, ¬ form.StandsIn name.toList text.toList)
      ∧ ∀ line ∈ splitLines text.toList, ¬ Assigns name.toList line := by
  have hforms : (headerForms ++ inlineForms).findSome? (inForm? text.toList name.toList) = none
      ↔ ∀ form ∈ forms, ¬ form.StandsIn name.toList text.toList := by
    simp only [List.findSome?_eq_none_iff, inForm?_eq_none_iff, forms]
  rw [ofName?, ← hforms, ← inLines?_closedLines_eq_none_iff]
  cases (headerForms ++ inlineForms).findSome? (inForm? text.toList name.toList) <;> simp

/-- **Spans of names.**  A span that is found lies in the text, between boundaries of characters,
and its bytes are those of the name.  None is found exactly if the name stands in none of the forms
of headers and inline tables, and no line, after the blanks at its start, has the name in front of
an equals sign with nothing but blanks between them. -/
theorem ofName?_spec (text name : String) :
    (∀ span ∈ ofName? text name, span.Covers text name)
      ∧ (ofName? text name = none ↔ (∀ form ∈ forms, ¬ form.StandsIn name.toList text.toList)
        ∧ ∀ line ∈ splitLines text.toList, ¬ Assigns name.toList line) :=
  ⟨fun _ hspan => covers_of_ofName? hspan, ofName?_eq_none_iff⟩

end Span

end ClassBridge
