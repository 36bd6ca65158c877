import ClassBridge.Proofs.Sheet.Pasting

/-!
# Pasting a text and writing it in place

A script can be run on the sheet where its text is to stand, or it can be run on a sheet of its own
and its text be pasted there.  `pasted_in_place_iff` says that this comes to the same at every depth
and for every kind of indentation, unless the script writes nothing at all.

**Moving rows.**  What a script writes deeper down are its rows at the margin, each pasted at that
depth (`rows_add`).  A row with something on it is moved as it is and an empty row stays empty, so
the lines that a script writes itself must have something on them: a line of blanks keeps them where
the script is run and loses them where it is pasted (`Script.IsInked`).

**Finding rows.**  A text is pasted line by line, and the lines of what a script wrote are its rows
(`fragmentLines_closeRows`).  Only if there are none, a line is found all the same: pasting the
empty text writes an empty line.
-/

namespace ClassBridge

open Text

/-! ## Lines of closed rows -/

namespace Text

/-- Rows are cut off what follows them, one by one. -/
lemma cutAt_closeRows_append {rows : List String} (h : ∀ row ∈ rows, FeedFree row)
    (rest : List Char) :
    cutAt '\n' ((closeRows rows).toList ++ rest)
      = rows.map String.toList ++ cutAt '\n' rest := by
  induction rows with
  | nil => rfl
  | cons row rows ih =>
      rw [List.forall_mem_cons] at h
      have htext : (closeRows (row :: rows)).toList ++ rest
          = row.toList ++ '\n' :: ((closeRows rows).toList ++ rest) := by simp
      rw [htext, cutAt_append, cutAt_of_not_mem h.1, ih h.2]
      rfl

/-- Closed rows are the lines of their text, if there are any. -/
lemma fragmentLines_closeRows {rows : List String} (hne : rows ≠ [])
    (h : ∀ row ∈ rows, FeedFree row) : fragmentLines (closeRows rows) = rows := by
  obtain ⟨above, last, rfl⟩ := (List.eq_nil_or_concat' rows).resolve_left hne
  have hdrop : dropFinalFeed (closeRows (above ++ [last])).toList
      = (closeRows above).toList ++ last.toList := by
    have htext : (closeRows (above ++ [last])).toList
        = ((closeRows above).toList ++ last.toList) ++ ['\n'] := by simp
    rw [htext, dropFinalFeed, List.getLast?_concat, if_pos rfl, List.dropLast_concat]
  have habove : ∀ row ∈ above, FeedFree row :=
    fun row hrow => h row (List.mem_append_left _ hrow)
  have hlast : FeedFree last := h last (List.mem_append_right _ (List.mem_singleton.mpr rfl))
  rw [fragmentLines, hdrop, splitLines, cutAt_closeRows_append habove, cutAt_of_not_mem hlast]
  simp [Function.comp_def]

end Text

/-! ## Moving rows -/

lemma Indent.pad_add (indent : Indent) (depth more : Nat) :
    indent.pad (depth + more) = indent.pad depth ++ indent.pad more := by
  induction depth with
  | zero => rw [Nat.zero_add, Indent.pad, String.empty_append]
  | succ depth ih => rw [Nat.succ_add, Indent.pad, Indent.pad, ih, String.append_assoc]

namespace Script

/-- The lines that a script writes itself, be they lines of code or around a block, have something
on them. -/
def IsInked : Script → Prop
  | .seq first second => first.IsInked ∧ second.IsInked
  | .line text => isBlankText text = false
  | .block header close body =>
    isBlankText header = false ∧ isBlankText close = false ∧ body.IsInked
  | .whenever _ body => body.IsInked
  | .iteration bodies => bodies.IsInked
  | _ => True

/-- Whether a script writes any line, be it empty. -/
def emits : Script → Bool
  | .skip => false
  | .seq first second => first.emits || second.emits
  | .deeper => false
  | .shallower => false
  | .whenever condition body => condition && body.emits
  | .iteration bodies => bodies.emits
  | _ => true

/-- A line with something on it moves with its indentation. -/
lemma pastedRow_padded {text : String} (h : isBlankText text = false) (indent : Indent)
    (depth more : Nat) :
    pastedRow indent depth (indent.pad more ++ text) = indent.pad (depth + more) ++ text := by
  have hrow : isBlankText (indent.pad more ++ text) = false := by
    rw [isBlankText_append, h, Bool.and_false]
  rw [pastedRow, hrow, Indent.pad_add, String.append_assoc]
  rfl

/-- Pasting what was pasted. -/
lemma pastedRow_pastedRow (indent : Indent) (depth more : Nat) (line : String) :
    pastedRow indent depth (pastedRow indent more line) = pastedRow indent (depth + more) line := by
  by_cases hblank : isBlankText line = true
  · have hempty : ∀ depth, pastedRow indent depth line = "" := fun _ => if_pos hblank
    rw [hempty, hempty]
    rfl
  · have hinked : ∀ depth, pastedRow indent depth line = indent.pad depth ++ line :=
      fun _ => if_neg hblank
    rw [hinked, hinked, pastedRow_padded (Bool.eq_false_iff.mpr hblank)]

lemma isBlankText_comment (text : String) : isBlankText ("// " ++ text) = false := by
  have hslashes : isBlankText "// " = false := by decide
  rw [isBlankText_append, hslashes, Bool.false_and]

/-- What a script writes deeper down is what it writes, pasted there. -/
theorem rows_add {script : Script} (hstructured : script.isStructured = true)
    (hinked : script.IsInked) (indent : Indent) (depth more : Nat) :
    script.rows indent (depth + more)
      = (script.rows indent more).map (pastedRow indent depth) := by
  induction script generalizing more with
  | skip => rfl
  | seq first second ih₁ ih₂ =>
      rw [isStructured, Bool.and_eq_true] at hstructured
      rw [rows_seq hstructured.1, rows_seq hstructured.1, List.map_append,
        ih₁ hstructured.1 hinked.1, ih₂ hstructured.2 hinked.2]
  | line text => rw [rows, rows, List.map_singleton, pastedRow_padded hinked]
  | lines fragment =>
      rw [rows, rows, List.map_map]
      exact List.map_congr_left fun line _ => (pastedRow_pastedRow indent depth more line).symm
  | comment text =>
      rw [rows, rows, List.map_singleton, pastedRow_padded (isBlankText_comment text)]
  | blank => rfl
  | deeper => simp [isStructured] at hstructured
  | shallower => simp [isStructured] at hstructured
  | block header close body ih =>
      have hbody : body.isStructured = true := hstructured
      obtain ⟨hheader, hclose, hinked⟩ := hinked
      simp only [rows, depthAfter_of_isStructured hbody, Nat.add_sub_cancel, List.map_cons,
        List.map_append, List.map_nil, pastedRow_padded hheader, pastedRow_padded hclose]
      rw [Nat.add_assoc, ih hbody hinked]
  | whenever condition body ih =>
      cases condition with
      | false => rfl
      | true => exact ih hstructured hinked more
  | iteration bodies ih => exact ih hstructured hinked more

/-! ## Finding rows -/

lemma rows_eq_nil_iff (script : Script) (indent : Indent) (depth : Nat) :
    script.rows indent depth = [] ↔ script.emits = false := by
  induction script generalizing depth with
  | seq first second ih₁ ih₂ =>
      rw [rows, List.append_eq_nil_iff, ih₁, ih₂, emits, Bool.or_eq_false_iff]
  | lines fragment =>
      have hlines := (hasLines_fragmentLines fragment).ne_nil
      simp [rows, emits, hlines]
  | whenever condition body ih => cases condition <;> simp [rows, emits, ih]
  | iteration bodies ih => exact ih depth
  | _ => simp [rows, emits]

/-- The lines of what a script wrote on a sheet of its own. -/
lemma fragmentLines_write {script : Script} (hfeed : script.IsFeedFree)
    (hemits : script.emits = true) (indent : Indent) :
    fragmentLines (script.write indent) = script.rows indent 0 := by
  have hne : script.rows indent 0 ≠ [] := by
    rw [ne_eq, rows_eq_nil_iff, hemits]
    exact Bool.noConfusion
  rw [write_eq]
  exact fragmentLines_closeRows hne fun row hrow => feedFree_of_mem_rows hfeed hrow

end Script

namespace Sheet

lemma lines_eq (sheet : Sheet) (fragment : String) :
    sheet.lines fragment = sheet.append (closeRows
      ((fragmentLines fragment).map (Script.pastedRow sheet.indent sheet.depth))) :=
  foldl_pastedLine sheet _

lemma run_of_isStructured {script : Script} (h : script.isStructured = true) (sheet : Sheet) :
    sheet.run script = sheet.append (closeRows (script.rows sheet.indent sheet.depth)) := by
  rw [run_eq, Script.depthAfter_of_isStructured h]
  rfl

lemma append_injective (sheet : Sheet) : Function.Injective sheet.append := by
  intro first second h
  have htext : sheet.text ++ first = sheet.text ++ second := congrArg Sheet.text h
  apply String.toList_injective
  have hlist := congrArg String.toList htext
  simpa using hlist

/-- **Pasting is writing in place.**  A script that changes its depth in blocks only, whose own
texts have no line feeds and whose own lines have something on them, adds the same text to a sheet
when it is run there as when its text is pasted there, and the depth of the sheet stays what it was:
that is so exactly if the script writes any line. -/
theorem pasted_in_place_iff {script : Script} (hstructured : script.isStructured = true)
    (hfeed : script.IsFeedFree) (hinked : script.IsInked) (sheet : Sheet) :
    (∃ added, sheet.run script = sheet.append added
        ∧ sheet.lines (script.write sheet.indent) = sheet.append added)
      ↔ script.emits = true := by
  rw [run_of_isStructured hstructured, lines_eq]
  constructor
  · rintro ⟨added, hrun, hlines⟩
    by_contra hsilent
    have hrows : ∀ depth, script.rows sheet.indent depth = [] := fun depth =>
      (script.rows_eq_nil_iff _ depth).mpr (Bool.eq_false_iff.mpr hsilent)
    -- the empty text has one line, which is pasted as an empty one
    have hpasted : (fragmentLines (script.write sheet.indent)).map
        (Script.pastedRow sheet.indent sheet.depth) = [""] := by
      rw [Script.write_eq, hrows]
      rfl
    rw [hrows] at hrun
    rw [hpasted] at hlines
    exact absurd (sheet.append_injective (hrun.trans hlines.symm)) (by decide)
  · intro hemits
    have hmoved := Script.rows_add hstructured hinked sheet.indent sheet.depth 0
    rw [Nat.add_zero] at hmoved
    rw [Script.fragmentLines_write hfeed hemits, hmoved]
    exact ⟨_, rfl, rfl⟩

/-- A comment without words, and a block with a fragment of several lines, an empty one at its end,
and the calls of a list. -/
def nestedScript : Script :=
  .seq (.comment "") (.seq
    (.block "if (ready) \x7b" "\x7d" (Script.all [
      .lines "a();\n \n  b();\n\n",
      .whenever true (.each ["c", "d"] fun name => .line (name ++ "();")),
      .whenever false .blank]))
    .blank)

theorem pasted_in_place_nestedScript :
    nestedScript.write .twoSpaces
        = "// \nif (ready) \x7b\n  a();\n\n    b();\n\n  c();\n  d();\n\x7d\n\n"
      ∧ ∃ added, (⟨.twoSpaces, 3, "e();\n"⟩ : Sheet).run nestedScript
          = (⟨.twoSpaces, 3, "e();\n"⟩ : Sheet).append added
        ∧ (⟨.twoSpaces, 3, "e();\n"⟩ : Sheet).lines (nestedScript.write .twoSpaces)
          = (⟨.twoSpaces, 3, "e();\n"⟩ : Sheet).append added := by
  have hfeed : nestedScript.IsFeedFree := by
    simp only [nestedScript, Script.all, Script.each, List.map, List.foldr, Script.IsFeedFree]
    decide
  have hinked : nestedScript.IsInked := by
    simp only [nestedScript, Script.all, Script.each, List.map, List.foldr, Script.IsInked]
    decide
  exact ⟨by decide +kernel, (pasted_in_place_iff rfl hfeed hinked _).mpr rfl⟩

end Sheet

end ClassBridge
