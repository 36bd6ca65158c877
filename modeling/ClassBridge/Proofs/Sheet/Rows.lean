import ClassBridge.Proofs.Text.Lines
import ClassBridge.Sheet

/-!
# The rows of a script

What a script writes is a list of rows (`Script.rows`) that depends on the kind of indentation and
on the depth at which the script starts; running it adds those rows to the sheet and moves to the
depth where it ends (`Sheet.run_eq`).

**Structured scripts.**  A script without bare changes of depth ends where it starts
(`depthAfter_of_isStructured`), and all that it writes below the outermost level is indented or
blank (`indented_of_mem_rows`): that is what keeps pasted text apart from what stands around it.

**Line feeds.**  A script whose own texts have no line feeds writes rows without any, whatever the
fragments are that it pastes (`feedFree_of_mem_rows`).
-/

namespace ClassBridge

namespace Script

/-- The depth at which a script ends. -/
def depthAfter : Script → Nat → Nat
  | .seq first second, depth => second.depthAfter (first.depthAfter depth)
  | .deeper, depth => depth + 1
  | .shallower, depth => depth - 1
  | .block _ _ body, depth => body.depthAfter (depth + 1) - 1
  | .whenever condition body, depth => if condition then body.depthAfter depth else depth
  | .iteration bodies, depth => bodies.depthAfter depth
  | _, depth => depth

/-- The row of one line of a fragment. -/
def pastedRow (indent : Indent) (depth : Nat) (text : String) : String :=
  if Text.isBlankText text then "" else indent.pad depth ++ text

/-- The rows that a script writes from a depth on. -/
def rows (indent : Indent) : Script → Nat → List String
  | .skip, _ => []
  | .seq first second, depth =>
    first.rows indent depth ++ second.rows indent (first.depthAfter depth)
  | .line text, depth => [indent.pad depth ++ text]
  | .lines fragment, depth => (Text.fragmentLines fragment).map (pastedRow indent depth)
  | .comment text, depth => [indent.pad depth ++ ("// " ++ text)]
  | .blank, _ => [""]
  | .deeper, _ => []
  | .shallower, _ => []
  | .block header close body, depth =>
    (indent.pad depth ++ header) :: (body.rows indent (depth + 1)
      ++ [indent.pad (body.depthAfter (depth + 1) - 1) ++ close])
  | .whenever condition body, depth => if condition then body.rows indent depth else []
  | .iteration bodies, depth => bodies.rows indent depth

/-- Whether the depth changes in blocks only. -/
def isStructured : Script → Bool
  | .seq first second => first.isStructured && second.isStructured
  | .deeper => false
  | .shallower => false
  | .block _ _ body => body.isStructured
  | .whenever _ body => body.isStructured
  | .iteration bodies => bodies.isStructured
  | _ => true

end Script

namespace Sheet

lemma line_eq (sheet : Sheet) (text : String) :
    sheet.line text = { sheet with
      text := sheet.text ++ Text.closeRows [sheet.indent.pad sheet.depth ++ text] } := by
  simp [line, append, Text.closeRows]

lemma blank_eq (sheet : Sheet) :
    sheet.blank = { sheet with text := sheet.text ++ Text.closeRows [""] } := by
  simp [blank, append, Text.closeRows]

lemma pastedLine_eq (sheet : Sheet) (text : String) :
    sheet.pastedLine text = { sheet with
      text := sheet.text ++ Text.closeRows [Script.pastedRow sheet.indent sheet.depth text] } := by
  unfold pastedLine Script.pastedRow
  split
  · exact blank_eq sheet
  · exact line_eq sheet text

lemma foldl_pastedLine (sheet : Sheet) (texts : List String) :
    texts.foldl pastedLine sheet = { sheet with
      text := sheet.text
        ++ Text.closeRows (texts.map (Script.pastedRow sheet.indent sheet.depth)) } := by
  induction texts generalizing sheet with
  | nil => simp
  | cons text texts ih =>
      rw [List.foldl_cons, ih, pastedLine_eq]
      simp [String.append_assoc]

/-- Running a script adds its rows to the sheet. -/
theorem run_eq (sheet : Sheet) (script : Script) :
    sheet.run script = { sheet with
      depth := script.depthAfter sheet.depth
      text := sheet.text ++ Text.closeRows (script.rows sheet.indent sheet.depth) } := by
  induction script generalizing sheet with
  | skip => simp [run, Script.depthAfter, Script.rows]
  | seq first second ih₁ ih₂ =>
      rw [run, ih₁, ih₂]
      simp [Script.depthAfter, Script.rows, String.append_assoc]
  | line text => rw [run, line_eq]; rfl
  | lines fragment => rw [run, lines, foldl_pastedLine]; rfl
  | comment text => rw [run, comment, line_eq]; rfl
  | blank => rw [run, blank_eq]; rfl
  | deeper => simp [run, deeper, Script.depthAfter, Script.rows]
  | shallower => simp [run, shallower, Script.depthAfter, Script.rows]
  | block header close body ih =>
      rw [run, line_eq, ih, line_eq]
      simp [deeper, shallower, Script.depthAfter, Script.rows, String.append_assoc]
  | whenever condition body ih =>
      cases condition with
      | false => simp [run, Script.depthAfter, Script.rows]
      | true => simp [run, Script.depthAfter, Script.rows, ih]
  | iteration bodies ih => rw [run, ih]; rfl

end Sheet

namespace Script

/-- What a script writes on a blank sheet is its rows. -/
lemma write_eq (script : Script) (indent : Indent) :
    script.write indent = Text.closeRows (script.rows indent 0) := by
  rw [write, Sheet.run_eq]
  simp [Sheet.blankSheet]

/-! ## Structured scripts -/

lemma depthAfter_of_isStructured {script : Script} (h : script.isStructured = true)
    (depth : Nat) : script.depthAfter depth = depth := by
  induction script generalizing depth with
  | seq first second ih₁ ih₂ =>
      rw [isStructured, Bool.and_eq_true] at h
      rw [depthAfter, ih₁ h.1, ih₂ h.2]
  | block header close body ih => rw [depthAfter, ih h, Nat.add_sub_cancel]
  | whenever condition body ih => cases condition <;> simp [depthAfter, ih h]
  | iteration bodies ih => exact ih h depth
  | deeper => simp [isStructured] at h
  | shallower => simp [isStructured] at h
  | _ => rfl

/-- The rows of two scripts, if the first one ends where it starts. -/
lemma rows_seq {first : Script} (h : first.isStructured = true) (second : Script)
    (indent : Indent) (depth : Nat) :
    (seq first second).rows indent depth
      = first.rows indent depth ++ second.rows indent depth := by
  rw [rows, depthAfter_of_isStructured h]

lemma isStructured_all {scripts : List Script}
    (h : ∀ script ∈ scripts, script.isStructured = true) :
    (all scripts).isStructured = true := by
  induction scripts with
  | nil => rfl
  | cons script scripts ih =>
      have hrest : (all scripts).isStructured = true :=
        ih fun s hs => h s (List.mem_cons_of_mem _ hs)
      show (script.isStructured && (all scripts).isStructured) = true
      rw [h script List.mem_cons_self, hrest]
      rfl

lemma isStructured_of_mem_all {scripts : List Script} (h : (all scripts).isStructured = true) :
    ∀ script ∈ scripts, script.isStructured = true := by
  induction scripts with
  | nil => simp
  | cons script scripts ih =>
      have hboth : (script.isStructured && (all scripts).isStructured) = true := h
      rw [Bool.and_eq_true] at hboth
      exact List.forall_mem_cons.mpr ⟨hboth.1, ih hboth.2⟩

lemma isStructured_each {α : Type} {items : List α} {script : α → Script}
    (h : ∀ item ∈ items, (script item).isStructured = true) :
    (each items script).isStructured = true := by
  refine isStructured_all fun s hs => ?_
  obtain ⟨item, hitem, rfl⟩ := List.mem_map.mp hs
  exact h item hitem

lemma rows_all {scripts : List Script} (h : ∀ script ∈ scripts, script.isStructured = true)
    (indent : Indent) (depth : Nat) :
    (all scripts).rows indent depth = scripts.flatMap fun script => script.rows indent depth := by
  induction scripts with
  | nil => rfl
  | cons script scripts ih =>
      have hrest := ih fun s hs => h s (List.mem_cons_of_mem _ hs)
      rw [List.flatMap_cons, ← hrest]
      exact rows_seq (h script List.mem_cons_self) _ _ _

lemma rows_each {α : Type} {items : List α} {script : α → Script}
    (h : ∀ item ∈ items, (script item).isStructured = true) (indent : Indent) (depth : Nat) :
    (each items script).rows indent depth
      = items.flatMap fun item => (script item).rows indent depth := by
  have hall : ∀ s ∈ items.map script, s.isStructured = true := by
    intro s hs
    obtain ⟨item, hitem, rfl⟩ := List.mem_map.mp hs
    exact h item hitem
  show (all (items.map script)).rows indent depth = _
  rw [rows_all hall, List.flatMap_map]

/-- What two scripts write, if the first one ends at the margin. -/
lemma write_seq_of_depthAfter {first : Script} (h : first.depthAfter 0 = 0) (second : Script)
    (indent : Indent) :
    (seq first second).write indent = first.write indent ++ second.write indent := by
  simp only [write_eq, rows, h, Text.closeRows_append]

/-- What two scripts write, if the first one ends where it starts. -/
lemma write_seq {first : Script} (h : first.isStructured = true) (second : Script)
    (indent : Indent) :
    (seq first second).write indent = first.write indent ++ second.write indent :=
  write_seq_of_depthAfter (depthAfter_of_isStructured h 0) second indent

/-- What an iteration writes is written for one item after the other, if each script ends at the
margin. -/
lemma write_each_of_depthAfter {α : Type} {items : List α} {script : α → Script}
    (h : ∀ item ∈ items, (script item).depthAfter 0 = 0) (indent : Indent) :
    (each items script).write indent
      = String.join (items.map fun item => (script item).write indent) := by
  induction items with
  | nil => rfl
  | cons item items ih =>
      rw [List.forall_mem_cons] at h
      rw [List.map_cons, String.join_cons, ← ih h.2]
      exact write_seq_of_depthAfter h.1 (all (items.map script)) indent

/-- What an iteration writes is written for one item after the other. -/
lemma write_each {α : Type} {items : List α} {script : α → Script}
    (h : ∀ item ∈ items, (script item).isStructured = true) (indent : Indent) :
    (each items script).write indent
      = String.join (items.map fun item => (script item).write indent) :=
  write_each_of_depthAfter (fun item hitem => depthAfter_of_isStructured (h item hitem) 0) indent

/-- A row that is empty or begins with a level of indentation. -/
def IsIndented (indent : Indent) (row : String) : Prop :=
  row = "" ∨ ∃ rest, row = indent.unit ++ rest

lemma isIndented_pad (indent : Indent) (depth : Nat) (text : String) :
    IsIndented indent (indent.pad (depth + 1) ++ text) :=
  Or.inr ⟨indent.pad depth ++ text, String.append_assoc⟩

/-- Below the outermost level a structured script writes no row at the margin. -/
theorem indented_of_mem_rows {script : Script} (h : script.isStructured = true)
    {indent : Indent} {depth : Nat} {row : String}
    (hrow : row ∈ script.rows indent (depth + 1)) : IsIndented indent row := by
  induction script generalizing depth with
  | skip => simp [rows] at hrow
  | seq first second ih₁ ih₂ =>
      rw [isStructured, Bool.and_eq_true] at h
      rw [rows_seq h.1, List.mem_append] at hrow
      rcases hrow with hrow | hrow
      · exact ih₁ h.1 hrow
      · exact ih₂ h.2 hrow
  | line text =>
      rw [rows, List.mem_singleton] at hrow
      rw [hrow]
      exact isIndented_pad indent depth text
  | lines fragment =>
      obtain ⟨text, -, rfl⟩ := List.mem_map.mp hrow
      unfold pastedRow
      split
      · exact Or.inl rfl
      · exact isIndented_pad indent depth text
  | comment text =>
      rw [rows, List.mem_singleton] at hrow
      rw [hrow]
      exact isIndented_pad indent depth _
  | blank =>
      rw [rows, List.mem_singleton] at hrow
      exact Or.inl hrow
  | deeper => simp [isStructured] at h
  | shallower => simp [isStructured] at h
  | block header close body ih =>
      have hbody : body.isStructured = true := h
      simp only [rows, depthAfter_of_isStructured hbody, Nat.add_sub_cancel, List.mem_cons,
        List.mem_append, List.not_mem_nil, or_false] at hrow
      rcases hrow with rfl | hrow | rfl
      · exact isIndented_pad indent depth header
      · exact ih hbody hrow
      · exact isIndented_pad indent depth close
  | whenever condition body ih =>
      cases condition with
      | false => simp [rows] at hrow
      | true => exact ih h hrow
  | iteration bodies ih => exact ih h hrow

/-! ## Line feeds -/

/-- The texts of a script, apart from the fragments that it pastes, have no line feeds. -/
def IsFeedFree : Script → Prop
  | .seq first second => first.IsFeedFree ∧ second.IsFeedFree
  | .line text => Text.FeedFree text
  | .comment text => Text.FeedFree text
  | .block header close body => Text.FeedFree header ∧ Text.FeedFree close ∧ body.IsFeedFree
  | .whenever _ body => body.IsFeedFree
  | .iteration bodies => bodies.IsFeedFree
  | _ => True

lemma feedFree_pad (indent : Indent) (depth : Nat) : Text.FeedFree (indent.pad depth) := by
  have hunit : Text.FeedFree indent.unit := by cases indent <;> decide
  induction depth with
  | zero =>
      show Text.FeedFree ""
      decide
  | succ depth ih => exact Text.feedFree_append.mpr ⟨hunit, ih⟩

lemma feedFree_padded {indent : Indent} {depth : Nat} {text : String} (h : Text.FeedFree text) :
    Text.FeedFree (indent.pad depth ++ text) :=
  Text.feedFree_append.mpr ⟨feedFree_pad indent depth, h⟩

/-- Pasted fragments are taken apart at their line feeds. -/
theorem feedFree_of_mem_rows {script : Script} (h : script.IsFeedFree) {indent : Indent}
    {depth : Nat} {row : String} (hrow : row ∈ script.rows indent depth) : Text.FeedFree row := by
  have hempty : Text.FeedFree "" := by decide
  induction script generalizing depth with
  | skip => simp [rows] at hrow
  | seq first second ih₁ ih₂ =>
      rw [rows, List.mem_append] at hrow
      rcases hrow with hrow | hrow
      · exact ih₁ h.1 hrow
      · exact ih₂ h.2 hrow
  | line text =>
      rw [rows, List.mem_singleton] at hrow
      rw [hrow]
      exact feedFree_padded h
  | lines fragment =>
      obtain ⟨text, htext, rfl⟩ := List.mem_map.mp hrow
      unfold pastedRow
      split
      · exact hempty
      · exact feedFree_padded (Text.feedFree_of_mem_fragmentLines htext)
  | comment text =>
      rw [rows, List.mem_singleton] at hrow
      rw [hrow]
      have hslashes : Text.FeedFree "// " := by decide
      exact feedFree_padded (Text.feedFree_append.mpr ⟨hslashes, h⟩)
  | blank =>
      rw [rows, List.mem_singleton] at hrow
      rw [hrow]
      exact hempty
  | deeper => simp [rows] at hrow
  | shallower => simp [rows] at hrow
  | block header close body ih =>
      simp only [rows, List.mem_cons, List.mem_append, List.not_mem_nil, or_false] at hrow
      rcases hrow with rfl | hrow | rfl
      · exact feedFree_padded h.1
      · exact ih h.2.2 hrow
      · exact feedFree_padded h.2.1
  | whenever condition body ih =>
      cases condition with
      | false => simp [rows] at hrow
      | true => exact ih h hrow
  | iteration bodies ih => exact ih h hrow

end Script

end ClassBridge
