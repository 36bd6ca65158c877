import ClassBridge.Proofs.Sheet.Rows
import ClassBridge.Text.Search

/-!
# Pasted fragments

**Lines.**  `HasLines` says which lines a fragment has without taking it apart: put together with
line feeds they are the fragment, up to one line feed at its end.

**Pasting.**  A row of a pasted fragment is its line behind the indentation, and a line of blanks
leaves an empty row.  So the fragment can be read off its rows, except for the blanks of such lines
(`isPasted_rows`): a level of indentation is taken off every row that has something on it.
-/

namespace ClassBridge

namespace Text

/-- The lines of a fragment, which may end with a line feed that opens no other line. -/
structure HasLines (fragment : String) (lines : List String) : Prop where
  feedFree : ∀ line ∈ lines, FeedFree line
  ne_nil : lines ≠ []
  joined : fragment = "\n".intercalate lines ++ "\n"
    ∨ fragment = "\n".intercalate lines ∧ fragment.toList.getLast? ≠ some '\n'

lemma toList_intercalate_map_ofList (pieces : List (List Char)) :
    ("\n".intercalate (pieces.map String.ofList)).toList = joinWith '\n' pieces := by
  induction pieces with
  | nil => rfl
  | cons piece rest ih =>
      cases rest with
      | nil => simp [joinWith]
      | cons next rest =>
          rw [List.map_cons, String.intercalate_cons_of_ne_nil (by simp), String.toList_append,
            String.toList_append, ih]
          simp [joinWith]

/-- Cutting at line feeds, after one at the end is dropped, gives the lines. -/
theorem hasLines_fragmentLines (fragment : String) :
    HasLines fragment (fragmentLines fragment) := by
  have hjoined : "\n".intercalate (fragmentLines fragment)
      = String.ofList (dropFinalFeed fragment.toList) := by
    apply String.toList_injective
    rw [fragmentLines, toList_intercalate_map_ofList, splitLines, joinWith_cutAt,
      String.toList_ofList]
  refine ⟨fun line hline => feedFree_of_mem_fragmentLines hline, ?_, ?_⟩
  · rw [fragmentLines, ne_eq, List.map_eq_nil_iff]
    exact cutAt_ne_nil '\n' _
  · rw [hjoined]
    by_cases hlast : fragment.toList.getLast? = some '\n'
    · left
      apply String.toList_injective
      rw [String.toList_append, String.toList_ofList, dropFinalFeed, if_pos hlast]
      exact (List.dropLast_append_getLast? '\n' hlast).symm
    · right
      rw [dropFinalFeed, if_neg hlast, String.ofList_toList]
      exact ⟨rfl, hlast⟩

/-- A line without its characters if all of them are blanks. -/
def emptied (line : String) : String := if isBlankText line then "" else line

lemma isBlankText_append (first second : String) :
    isBlankText (first ++ second) = (isBlankText first && isBlankText second) := by
  simp [isBlankText]

end Text

namespace Script

open Text

/-- A row without one level of indentation; a row of blanks has none. -/
def unindented? (indent : Indent) (row : String) : Option String :=
  if isBlankText row then some row
  else (dropStart? indent.unit.toList row.toList).map String.ofList

/-- Rows from which the lines of a fragment can be read back. -/
def IsPasted (indent : Indent) (fragment : String) (rows : List String) : Prop :=
  ∃ lines, HasLines fragment lines
    ∧ rows.map (unindented? indent) = lines.map fun line => some (emptied line)

/-- One level less of indentation is the row of one level less. -/
lemma unindented?_pastedRow (indent : Indent) (depth : Nat) (line : String) :
    unindented? indent (pastedRow indent (depth + 1) line)
      = some (pastedRow indent depth line) := by
  unfold pastedRow
  by_cases hblank : isBlankText line
  · rw [if_pos hblank, if_pos hblank]
    rfl
  · have hrow : isBlankText (indent.pad (depth + 1) ++ line) = false := by
      rw [isBlankText_append, Bool.eq_false_iff.mpr hblank, Bool.and_false]
    have hlist : (indent.pad (depth + 1) ++ line).toList
        = indent.unit.toList ++ (indent.pad depth ++ line).toList := by
      rw [Indent.pad, String.append_assoc, String.toList_append]
    rw [if_neg hblank, if_neg hblank, unindented?, hrow, hlist, dropStart?]
    simp

lemma pastedRow_zero (indent : Indent) (line : String) :
    pastedRow indent 0 line = emptied line := by
  rw [pastedRow, emptied, Indent.pad, String.empty_append]

/-- A fragment can be read off what is pasted of it one level below the margin. -/
theorem isPasted_rows (indent : Indent) (fragment : String) :
    IsPasted indent fragment ((lines fragment).rows indent 1) := by
  refine ⟨fragmentLines fragment, hasLines_fragmentLines fragment, ?_⟩
  rw [rows, List.map_map]
  refine List.map_congr_left fun line _ => ?_
  rw [Function.comp_apply, unindented?_pastedRow, pastedRow_zero]

end Script

end ClassBridge
