import ClassBridge.Proofs.Text.Lines
import ClassBridge.Text.Blank
import ClassBridge.Text.Search

/-!
# Places in a text

**Bytes.**  Offsets count bytes, and the bytes of a text are those of its characters
(`byteLength_toList`).  So what stands between two pieces of a text can be cut out at the offsets
that the pieces give, which are boundaries of characters (`extract_append`, `isValid_append`).

**Occurrences.**  `FirstAt` says what stands before the first occurrence of a pattern, and the
search finds it there (`find?_eq_some_iff`).

**Lines.**  `lineAt?` is the line that has the byte at an offset.  A place in a text is on the line
that continues the unfinished line before it (`lineAt?_append`).

**Beginnings.**  What is left of a text when a given start or all leading blanks are taken off it
(`dropStart?_eq_some_iff`, `trimStart_eq_iff`).
-/

namespace ClassBridge.Text

/-! ## Bytes -/

lemma byteLength_ofList (cs : List Char) : (String.ofList cs).utf8ByteSize = byteLength cs := by
  induction cs with
  | nil => rfl
  | cons c cs ih =>
      have hcons : String.ofList (c :: cs) = String.singleton c ++ String.ofList cs := by
        rw [String.singleton_eq_ofList, ← String.ofList_append]
        rfl
      rw [hcons, String.utf8ByteSize_append, String.utf8ByteSize_singleton, ih, byteLength]

@[simp] lemma byteLength_toList (text : String) : byteLength text.toList = text.utf8ByteSize := by
  rw [← byteLength_ofList, String.ofList_toList]

lemma byteLength_lt_append (before : List Char) (c : Char) (after : List Char) :
    byteLength before < byteLength (before ++ c :: after) := by
  rw [byteLength_append, byteLength]
  have hsize := c.utf8Size_pos
  omega

/-- The bytes between two pieces are those of the text between them. -/
lemma extract_append (before text after : String) :
    (before ++ text ++ after).toByteArray.extract before.utf8ByteSize
      (before.utf8ByteSize + text.utf8ByteSize) = text.toByteArray := by
  have hafter : before.utf8ByteSize + text.utf8ByteSize = before.toByteArray.size
      + text.toByteArray.size := by
    rw [String.size_toByteArray, String.size_toByteArray]
  have hbefore : before.utf8ByteSize = before.toByteArray.size + 0 := by
    rw [String.size_toByteArray, Nat.add_zero]
  rw [String.append_assoc, String.toByteArray_append, String.toByteArray_append, hafter, hbefore,
    ByteArray.extract_append_size_add]
  exact ByteArray.extract_append_eq_left rfl

/-- A piece of a text ends at the boundary of a character. -/
lemma isValid_append (before after : String) :
    (⟨before.utf8ByteSize⟩ : String.Pos.Raw).IsValid (before ++ after) :=
  String.Pos.Raw.isValid_iff_exists_append.mpr ⟨before, after, rfl, rfl⟩

/-! ## Occurrences -/

/-- The pattern stands in the text behind these characters, and nowhere sooner. -/
structure FirstAt (pattern text before : List Char) : Prop where
  stands : before ++ pattern <+: text
  first : ∀ other, other ++ pattern <+: text → before.length ≤ other.length

lemma firstAt_nil_iff {pattern text : List Char} :
    FirstAt pattern text [] ↔ pattern <+: text :=
  ⟨fun h => h.stands, fun h => ⟨h, by simp⟩⟩

lemma firstAt_cons_iff {pattern before cs : List Char} {c d : Char} :
    FirstAt pattern (c :: cs) (d :: before)
      ↔ d = c ∧ ¬ pattern <+: c :: cs ∧ FirstAt pattern cs before := by
  constructor
  · rintro ⟨hstands, hfirst⟩
    rw [List.cons_append, List.cons_prefix_cons] at hstands
    refine ⟨hstands.1, fun hprefix => ?_, hstands.2, fun other hother => ?_⟩
    · simpa using hfirst [] hprefix
    · simpa using hfirst (c :: other) (by simpa using hother)
  · rintro ⟨rfl, hprefix, hstands, hfirst⟩
    refine ⟨by simpa using hstands, fun other hother => ?_⟩
    cases other with
    | nil => exact absurd hother hprefix
    | cons e other =>
        rw [List.cons_append, List.cons_prefix_cons] at hother
        simpa using hfirst other hother.2

/-- The search finds the first occurrence. -/
theorem find?_eq_some_iff {pattern text : List Char} {offset : Nat} :
    find? pattern text = some offset
      ↔ ∃ before, FirstAt pattern text before ∧ byteLength before = offset := by
  induction text generalizing offset with
  | nil =>
      have hstands : ∀ before, FirstAt pattern [] before ↔ before = [] ∧ pattern = [] := by
        intro before
        constructor
        · intro h
          simpa using h.stands
        · rintro ⟨rfl, rfl⟩
          exact firstAt_nil_iff.mpr List.prefix_rfl
      cases pattern <;> simp [find?, hstands, byteLength, eq_comm]
  | cons c cs ih =>
      rw [find?]
      split
      · rename_i hprefix
        rw [List.isPrefixOf_iff_prefix] at hprefix
        constructor
        · rintro ⟨⟩
          exact ⟨[], firstAt_nil_iff.mpr hprefix, rfl⟩
        · rintro ⟨_ | ⟨d, before⟩, hfirst, rfl⟩
          · rfl
          · exact absurd hprefix (firstAt_cons_iff.mp hfirst).2.1
      · rename_i hprefix
        rw [List.isPrefixOf_iff_prefix] at hprefix
        rw [Option.map_eq_some_iff]
        constructor
        · rintro ⟨rest, hrest, rfl⟩
          obtain ⟨before, hfirst, rfl⟩ := ih.mp hrest
          exact ⟨c :: before, firstAt_cons_iff.mpr ⟨rfl, hprefix, hfirst⟩, rfl⟩
        · rintro ⟨_ | ⟨d, before⟩, hfirst, rfl⟩
          · exact absurd (firstAt_nil_iff.mp hfirst) hprefix
          · obtain ⟨rfl, -, hbefore⟩ := firstAt_cons_iff.mp hfirst
            exact ⟨byteLength before, ih.mpr ⟨before, hbefore, rfl⟩, rfl⟩

/-! ## Lines -/

/-- The unfinished line at the end of a text. -/
def lastLine (cs : List Char) : List Char := cs.rtakeWhile (· != '\n')

/-- The line that has the byte at the offset. -/
def lineAt? : (offset : Nat) → List (List Char) → Option (List Char)
  | _, [] => none
  | offset, line :: lines =>
    if offset < byteLength line then some line else lineAt? (offset - byteLength line) lines

lemma lastLine_append {xs ys : List Char} (h : '\n' ∉ ys) :
    lastLine (xs ++ ys) = lastLine xs ++ ys := by
  have hall : ∀ c ∈ ys.reverse, (c != '\n') = true := fun c hc =>
    bne_iff_ne.mpr (ne_of_mem_of_not_mem (List.mem_reverse.mp hc) h)
  rw [lastLine, List.rtakeWhile, List.reverse_append, List.takeWhile_append_of_pos hall,
    List.reverse_append, List.reverse_reverse]
  rfl

lemma not_mem_lastLine (cs : List Char) : '\n' ∉ lastLine cs := fun h =>
  absurd (List.mem_rtakeWhile_imp h) (by decide)

/-- The unfinished line is behind the last line feed. -/
lemma exists_above_lastLine (cs : List Char) :
    cs = lastLine cs ∨ ∃ above, cs = above ++ '\n' :: lastLine cs := by
  induction cs using List.reverseRecOn with
  | nil => exact .inl rfl
  | append_singleton cs c ih =>
      by_cases hc : c = '\n'
      · subst hc
        exact .inr ⟨cs, by simp [lastLine]⟩
      · rw [lastLine_append (by simpa using Ne.symm hc)]
        rcases ih with ih | ⟨above, ih⟩
        · exact .inl (by rw [← ih])
        · refine .inr ⟨above, ?_⟩
          rw [← List.cons_append, ← List.append_assoc, ← ih]

/-- What stands before the first line feed is on the first line. -/
lemma closedLines_feedFree_append {line : List Char} (h : '\n' ∉ line) (c : Char)
    (cs : List Char) :
    ∃ tail later, closedLines (line ++ c :: cs) = (line ++ c :: tail) :: later := by
  induction line with
  | nil =>
      by_cases hc : c = '\n'
      · exact ⟨[], closedLines cs, by simp [closedLines, hc]⟩
      · cases hcs : closedLines cs with
        | nil => exact ⟨[], [], by simp [closedLines, hc, hcs]⟩
        | cons tail later => exact ⟨tail, later, by simp [closedLines, hc, hcs]⟩
  | cons d line ih =>
      rw [List.mem_cons, not_or] at h
      obtain ⟨tail, later, hlines⟩ := ih h.2
      have hd : d ≠ '\n' := Ne.symm h.1
      exact ⟨tail, later, by simp [closedLines, hd, hlines]⟩

lemma lineAt?_flatten (sooner : List (List Char)) {line : List Char} (later : List (List Char))
    {offset : Nat} (h : offset < byteLength line) :
    lineAt? (byteLength sooner.flatten + offset) (sooner ++ line :: later) = some line := by
  induction sooner with
  | nil =>
      rw [List.flatten_nil, byteLength, Nat.zero_add, List.nil_append, lineAt?, if_pos h]
  | cons first sooner ih =>
      have hpast : ¬ byteLength first + byteLength sooner.flatten + offset < byteLength first := by
        omega
      rw [List.flatten_cons, byteLength_append, List.cons_append, lineAt?, if_neg hpast,
        Nat.add_assoc, Nat.add_sub_cancel_left, ih]

/-- A place is on the line that continues the unfinished line before it. -/
lemma lineAt?_append (before : List Char) (c : Char) (after : List Char) :
    ∃ tail, lineAt? (byteLength before) (closedLines (before ++ c :: after))
      = some (lastLine before ++ c :: tail) := by
  obtain ⟨tail, later, hlines⟩ := closedLines_feedFree_append (not_mem_lastLine before) c after
  have hshort := byteLength_lt_append (lastLine before) c tail
  refine ⟨tail, ?_⟩
  rcases exists_above_lastLine before with hbefore | ⟨above, hbefore⟩
  · have hall : closedLines (before ++ c :: after) = (lastLine before ++ c :: tail) :: later := by
      rw [← hlines, ← hbefore]
    rw [hall]
    simpa [byteLength, ← hbefore] using lineAt?_flatten [] later hshort
  · have hall : closedLines (before ++ c :: after)
        = closedLines (above ++ ['\n']) ++ (lastLine before ++ c :: tail) :: later := by
      rw [← hlines, ← closedLines_append_feed, ← List.cons_append, ← List.append_assoc, ← hbefore]
    have hlength : byteLength before
        = byteLength (closedLines (above ++ ['\n'])).flatten + byteLength (lastLine before) := by
      rw [flatten_closedLines, ← byteLength_append, List.append_assoc, List.singleton_append,
        ← hbefore]
    rw [hall, hlength]
    exact lineAt?_flatten _ later hshort

/-! ## Beginnings -/

lemma dropStart?_eq_some_iff {start cs rest : List Char} :
    dropStart? start cs = some rest ↔ cs = start ++ rest := by
  unfold dropStart?
  split
  · rename_i hprefix
    obtain ⟨more, rfl⟩ := List.isPrefixOf_iff_prefix.mp hprefix
    simp
  · rename_i hprefix
    constructor
    · rintro ⟨⟩
    · rintro rfl
      exact absurd (List.isPrefixOf_iff_prefix.mpr (List.prefix_append start rest)) hprefix

/-- What is left is what a run of blanks stands in front of, if it does not begin with a blank. -/
lemma trimStart_eq_iff {cs rest : List Char} :
    trimStart cs = rest ↔ ∃ lead, cs = lead ++ rest ∧ (∀ c ∈ lead, isBlank c = true)
      ∧ ∀ c ∈ rest.head?, isBlank c = false := by
  constructor
  · rintro rfl
    refine ⟨cs.takeWhile isBlank, (takeWhile_append_trimStart cs).symm,
      List.all_eq_true.mp List.all_takeWhile, fun c hc => ?_⟩
    have hhead := List.head?_dropWhile_not isBlank cs
    rw [Option.mem_def, trimStart] at hc
    simpa only [hc] using hhead
  · rintro ⟨lead, rfl, hlead, hrest⟩
    rw [trimStart, List.dropWhile_append_of_pos hlead]
    cases rest with
    | nil => rfl
    | cons c rest => rw [List.dropWhile_cons_of_neg (by rw [hrest c rfl]; exact Bool.false_ne_true)]

/-- The blanks at the start of a text are not all of it if something is left without them. -/
lemma byteLength_takeWhile_isBlank_lt {cs : List Char} (h : trimStart cs ≠ []) :
    byteLength (cs.takeWhile isBlank) < byteLength cs := by
  obtain ⟨c, rest, hrest⟩ := List.exists_cons_of_ne_nil h
  nth_rewrite 2 [← takeWhile_append_trimStart cs]
  rw [hrest]
  exact byteLength_lt_append _ _ _

lemma head?_trimStart_append (xs ys : List Char) :
    (trimStart (xs ++ ys)).head? = (trimStart xs).head?.or (trimStart ys).head? := by
  simp only [trimStart, List.dropWhile_append]
  cases List.dropWhile isBlank xs <;> simp

end ClassBridge.Text
