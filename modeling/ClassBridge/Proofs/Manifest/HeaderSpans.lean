import ClassBridge.Manifest.Load
import ClassBridge.Proofs.Manifest.NameSites
import ClassBridge.Proofs.Manifest.Spans

/-!
# Spans on header lines

A span is looked for by the name alone.  What the name names takes no part in the search, so the
span of a field or a parameter may be that of a table with the same name.

**Forms.**  A name that stands in some form has its span on a header line exactly if the line in
front of the first occurrence of the first such form opens a header (`onHeader_iff_of_leads`).

**Keys.**  A name that stands in none has its span at the start of a line, which is that of a header
only if the name itself opens it (`onHeader_iff_of_inLines?`).
-/

namespace ClassBridge

open Text

namespace Span

/-! ## Forms -/

/-- A line whose first character, after the blanks at its start, is that of a table header. -/
def OpensHeader (line : List Char) : Prop := (trimStart line).head? = some '['

instance (line : List Char) : Decidable (OpensHeader line) :=
  inferInstanceAs (Decidable (_ = _))

/-- The span begins on a line that opens a table header. -/
def OnHeader (span : Span) (text : String) : Prop :=
  ∃ line ∈ lineAt? span.offset (closedLines text.toList), OpensHeader line

instance (span : Span) (text : String) : Decidable (span.OnHeader text) :=
  inferInstanceAs (Decidable (∃ line ∈ lineAt? span.offset (closedLines text.toList), _))

/-- The form is the first one in which the name stands in the text, and `before` is what stands
before its first occurrence. -/
structure Form.Leads (form : Form) (name text before : List Char) : Prop where
  first : ∃ sooner later, forms = sooner ++ form :: later
    ∧ ∀ earlier ∈ sooner, ¬ earlier.StandsIn name text
  place : FirstAt (form.pattern name) text before

lemma Form.Leads.mem {form : Form} {name text before : List Char}
    (h : form.Leads name text before) : form ∈ forms := by
  obtain ⟨sooner, later, hforms, -⟩ := h.first
  simp [hforms]

/-- What a form has before the name is on one line, and does not open a header. -/
lemma before_of_mem_forms {form : Form} (h : form ∈ forms) : '\n' ∉ form.before.toList
    ∧ (trimStart form.before.toList).head? ≠ none ∧ ¬ OpensHeader form.before.toList := by
  have hall : ∀ form ∈ forms, '\n' ∉ form.before.toList
      ∧ (trimStart form.before.toList).head? ≠ none ∧ ¬ OpensHeader form.before.toList := by
    decide
  exact hall form h

lemma after_ne_nil {form : Form} (h : form ∈ forms) : form.after.toList ≠ [] := by
  have hall : ∀ form ∈ forms, form.after.toList ≠ [] := by decide
  exact hall form h

lemma opensHeader_append_before {form : Form} (h : form ∈ forms) (line rest : List Char) :
    OpensHeader (line ++ form.before.toList ++ rest) ↔ OpensHeader line := by
  obtain ⟨-, hsome, hopens⟩ := before_of_mem_forms h
  obtain ⟨c, hc⟩ := Option.ne_none_iff_exists'.mp hsome
  rw [OpensHeader, hc] at hopens
  rw [OpensHeader, OpensHeader, head?_trimStart_append, head?_trimStart_append, hc]
  cases (trimStart line).head? with
  | none => simpa using hopens
  | some d => rfl

lemma findSome?_inForm?_eq_some_iff {text name : List Char} {span : Span} :
    forms.findSome? (inForm? text name) = some span ↔ ∃ form before,
      Form.Leads form name text before
        ∧ span = ⟨byteLength (before ++ form.before.toList), byteLength name⟩ := by
  rw [List.findSome?_eq_some_iff]
  constructor
  · rintro ⟨sooner, form, later, hforms, hspan, hsooner⟩
    obtain ⟨offset, hoffset, rfl⟩ := Option.map_eq_some_iff.mp hspan
    obtain ⟨before, hplace, rfl⟩ := find?_eq_some_iff.mp hoffset
    have hmem : form ∈ forms := by simp [hforms]
    refine ⟨form, before, ⟨⟨sooner, later, hforms, ?_⟩, hplace⟩, ?_⟩
    · exact fun earlier hearlier => inForm?_eq_none_iff.mp (hsooner earlier hearlier)
    · rw [byteLength_append, skip_eq hmem]
  · rintro ⟨form, before, hleads, rfl⟩
    obtain ⟨sooner, later, hforms, hsooner⟩ := hleads.first
    refine ⟨sooner, form, later, hforms, ?_, ?_⟩
    · rw [inForm?, find?_eq_some_iff.mpr ⟨before, hleads.place, rfl⟩, byteLength_append,
        skip_eq hleads.mem]
      rfl
    · exact fun earlier hearlier => inForm?_eq_none_iff.mpr (hsooner earlier hearlier)

/-- The span of a name in its leading form is on the line that the form continues. -/
lemma onHeader_iff_of_leads {text name : String} {form : Form} {before : List Char}
    (h : form.Leads name.toList text.toList before) :
    (⟨byteLength (before ++ form.before.toList), byteLength name.toList⟩ : Span).OnHeader text
      ↔ OpensHeader (lastLine before) := by
  have hfree := (before_of_mem_forms h.mem).1
  obtain ⟨after, htext⟩ := h.place.stands
  obtain ⟨c, rest, hrest⟩ : ∃ c rest, name.toList ++ form.after.toList ++ after = c :: rest :=
    List.exists_cons_of_ne_nil (by simp [after_ne_nil h.mem])
  have hcut : text.toList = before ++ form.before.toList ++ c :: rest := by
    rw [← htext, ← hrest]
    simp [Form.pattern]
  obtain ⟨tail, hline⟩ := lineAt?_append (before ++ form.before.toList) c rest
  rw [OnHeader, hcut, hline, lastLine_append hfree]
  simp only [Option.mem_some, exists_eq_left', opensHeader_append_before h.mem]

/-! ## Keys -/

lemma opensHeader_iff_of_assigns {name line : List Char} (h : Assigns name line) :
    OpensHeader line ↔ name.head? = some '[' := by
  obtain ⟨rest, htrim, hequals⟩ := assigns_iff.mp h
  rw [OpensHeader, htrim]
  cases name with
  | cons c name => rfl
  | nil =>
      -- without a name, the line begins with the equals sign
      have htwice : trimStart (trimStart line) = trimStart line :=
        List.dropWhile_idempotent isBlank line
      rw [List.nil_append] at htrim ⊢
      rw [← htrim, htwice, htrim] at hequals
      simp [hequals]

/-- The span of a name at the start of a line is on that line. -/
lemma onHeader_iff_of_inLines? {text : String} {name : List Char} {span : Span}
    (h : inLines? name 0 (closedLines text.toList) = some span) :
    span.OnHeader text ↔ name.head? = some '[' := by
  obtain ⟨sooner, line, later, hlines, hassigns, rfl⟩ := inLines?_eq_some h
  have hshort := byteLength_takeWhile_isBlank_lt (trimStart_ne_nil_of_assigns hassigns)
  rw [OnHeader, hlines, Nat.zero_add, byteLength_append, lineAt?_flatten sooner later hshort]
  simp only [Option.mem_some, exists_eq_left', opensHeader_iff_of_assigns hassigns]

/-! ## Header lines -/

variable {text name : String}

lemma exists_leads {form : Form} (hform : form ∈ forms)
    (hstands : form.StandsIn name.toList text.toList) :
    ∃ leading before, Form.Leads leading name.toList text.toList before := by
  cases hspan : forms.findSome? (inForm? text.toList name.toList) with
  | none =>
      rw [List.findSome?_eq_none_iff] at hspan
      exact absurd hstands (inForm?_eq_none_iff.mp (hspan form hform))
  | some span =>
      obtain ⟨leading, before, hleads, -⟩ := findSome?_inForm?_eq_some_iff.mp hspan
      exact ⟨leading, before, hleads⟩

lemma ofName?_eq_of_leads {form : Form} {before : List Char}
    (h : form.Leads name.toList text.toList before) : ofName? text name
      = some ⟨byteLength (before ++ form.before.toList), byteLength name.toList⟩ := by
  have hspan := findSome?_inForm?_eq_some_iff.mpr ⟨form, before, h, rfl⟩
  rw [forms] at hspan
  rw [ofName?, hspan]

lemma ofName?_eq_inLines? (h : ∀ form ∈ forms, ¬ form.StandsIn name.toList text.toList) :
    ofName? text name = inLines? name.toList 0 (closedLines text.toList) := by
  have hnone : forms.findSome? (inForm? text.toList name.toList) = none :=
    List.findSome?_eq_none_iff.mpr fun form hform => inForm?_eq_none_iff.mpr (h form hform)
  rw [forms] at hnone
  rw [ofName?, hnone]

/-- The search ends on a header line in two cases only. -/
lemma exists_onHeader_iff :
    (∃ span ∈ ofName? text name, span.OnHeader text)
      ↔ (∃ form before, Form.Leads form name.toList text.toList before
          ∧ OpensHeader (lastLine before))
        ∨ (∀ form ∈ forms, ¬ form.StandsIn name.toList text.toList)
          ∧ (∃ line ∈ splitLines text.toList, Assigns name.toList line)
          ∧ name.toList.head? = some '[' := by
  constructor
  · rintro ⟨span, hspan, hheader⟩
    by_cases hnone : ∀ form ∈ forms, ¬ form.StandsIn name.toList text.toList
    · right
      rw [ofName?_eq_inLines? hnone] at hspan
      refine ⟨hnone, ?_, (onHeader_iff_of_inLines? hspan).mp hheader⟩
      by_contra hassigns
      push Not at hassigns
      rw [inLines?_closedLines_eq_none_iff.mpr hassigns] at hspan
      cases hspan
    · left
      push Not at hnone
      obtain ⟨form, hform, hstands⟩ := hnone
      obtain ⟨leading, before, hleads⟩ := exists_leads hform hstands
      rw [ofName?_eq_of_leads hleads] at hspan
      obtain rfl := Option.some_inj.mp hspan
      exact ⟨leading, before, hleads, (onHeader_iff_of_leads hleads).mp hheader⟩
  · rintro (⟨form, before, hleads, hopens⟩ | ⟨hnone, ⟨line, hline, hassigns⟩, hname⟩)
    · exact ⟨_, ofName?_eq_of_leads hleads, (onHeader_iff_of_leads hleads).mpr hopens⟩
    · rw [ofName?_eq_inLines? hnone]
      cases hspan : inLines? name.toList 0 (closedLines text.toList) with
      | none => exact absurd hassigns (inLines?_closedLines_eq_none_iff.mp hspan line hline)
      | some span => exact ⟨span, rfl, (onHeader_iff_of_inLines? hspan).mpr hname⟩

end Span

namespace Manifest

open ClassBridge.Span

variable {text : String} {error : NameError}

/-- The name error that loading a text ends with, if it ends with one. -/
def nameError? (text : String) : Option NameError :=
  match ofText text with
  | .error (.badName error) => some error
  | _ => none

lemma nameError?_eq_some_iff :
    nameError? text = some error ↔ ofText text = .error (.badName error) := by
  unfold nameError?
  split
  · rename_i found hfound
    simp [hfound]
  · rename_i hother
    simpa using hother error

/-- A name error of a text is one that the check of the names gives. -/
lemma checkNames_of_ofText (h : ofText text = .error (.badName error)) :
    ∃ manifest : Manifest, manifest.checkNames text = .error error := by
  unfold ofText at h
  split at h
  · cases h
  · split at h
    · cases h
    · rename_i manifest hmanifest
      split at h
      · rename_i found hfound
        cases h
        exact ⟨manifest, hfound⟩
      · cases h

lemma span_of_ofText (h : ofText text = .error (.badName error)) :
    error.span = ofName? text error.name := by
  obtain ⟨manifest, herror⟩ := checkNames_of_ofText h
  obtain ⟨-, site, -, problem, -, -, -, rfl⟩ := checkNames_eq_error_iff.mp herror
  rfl

/-- **Spans of name errors on header lines.**  Whatever the bad name names, its span is on the line
of a table header exactly in two cases.  Either the name stands in some form, and the first
occurrence of the first of these forms is on such a line; or it stands in none, and begins with the
bracket of the header itself, in front of an equals sign. -/
theorem span_onHeader_iff (h : ofText text = .error (.badName error)) :
    (∃ span ∈ error.span, span.OnHeader text)
      ↔ (∃ form before, Form.Leads form error.name.toList text.toList before
          ∧ OpensHeader (lastLine before))
        ∨ (∀ form ∈ forms, ¬ form.StandsIn error.name.toList text.toList)
          ∧ (∃ line ∈ splitLines text.toList, Assigns error.name.toList line)
          ∧ error.name.toList.head? = some '[' := by
  rw [span_of_ofText h]
  exact exists_onHeader_iff

/-- The prefix of this schema is a keyword, and so is the name of a method. -/
def prefixedSchema : String := "prefix=\"new\"\n[classes.A.methods.new]\nbody=\"\""

theorem span_onHeader_prefixedSchema :
    ofText prefixedSchema = .error (.badName ⟨"new", "prefix", .keyword, some ⟨32, 3⟩⟩)
      ∧ ∃ form before, Form.Leads form "new".toList prefixedSchema.toList before
        ∧ OpensHeader (lastLine before) := by
  have herror : ofText prefixedSchema
      = .error (.badName ⟨"new", "prefix", .keyword, some ⟨32, 3⟩⟩) :=
    nameError?_eq_some_iff.mp (by decide +kernel)
  have hheader : (⟨32, 3⟩ : Span).OnHeader prefixedSchema := by decide +kernel
  refine ⟨herror, ?_⟩
  rcases (span_onHeader_iff herror).mp ⟨_, rfl, hheader⟩ with hleads | ⟨-, -, hname⟩
  · exact hleads
  · exact absurd hname (by decide)

/-- A parameter of this schema has the name of a method that may be called so. -/
def namesakeSchema : String :=
  "[classes.A.methods.new]\nbody=\"\"\n[classes.A.methods.f]\nparams=\x7bnew=\"\"\x7d\nbody=\"\""

/-- The error about the parameter has the span of the method in its header. -/
theorem span_onHeader_namesakeSchema :
    ofText namesakeSchema = .error (.badName ⟨"new", "parameter in 'A.f'", .keyword, some ⟨19, 3⟩⟩)
      ∧ (⟨19, 3⟩ : Span).OnHeader namesakeSchema :=
  ⟨nameError?_eq_some_iff.mp (by decide +kernel), by decide +kernel⟩

end Manifest

end ClassBridge
