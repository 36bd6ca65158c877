import ClassBridge.Proofs.Text.Cut
import ClassBridge.Text.Lines
import Mathlib.Data.List.DropRight

/-!
# Reading a text line by line

**Lines.**  `readLines` is what a reader of lines sees: a line feed ends a line, a carriage return
before it belongs to the ending, and nothing follows the last line feed.

**Rows.**  `closeRows` writes rows, each with a line feed after it.  The rows are read one after
the other (`readLines_closeRows`), and each is one line, up to a carriage return at its end, as long
as it has no line feed of its own (`rowLines_eq`).

**Listings.**  `linesBefore` keeps the lines above the first occurrence of a mark and `linesAfter`
those below the last one, and `withoutEnding?` takes a fixed ending off a line.  `Shows` relates
rows to the items that a reader makes out in them; it goes through lists of rows part by part, and
what rows show below a mark is what is read there (`Shows.read_eq`).
-/

namespace ClassBridge.Text

/-! ## Reading -/

/-- A line without the carriage return that may end it. -/
def dropReturn (line : List Char) : List Char :=
  if line.getLast? = some '\r' then line.dropLast else line

/-- A closed line without what closes it. -/
def openLine (line : List Char) : List Char :=
  if line.getLast? = some '\n' then dropReturn line.dropLast else line

/-- A text without line feeds. -/
def FeedFree (text : String) : Prop := '\n' ∉ text.toList

instance (text : String) : Decidable (FeedFree text) := inferInstanceAs (Decidable (¬ _))

@[simp] lemma feedFree_append {first second : String} :
    FeedFree (first ++ second) ↔ FeedFree first ∧ FeedFree second := by
  simp [FeedFree]

/-- The lines of a text. -/
def readLines (text : String) : List String :=
  (closedLines text.toList).map fun line => String.ofList (openLine line)

lemma dropReturn_eq_self {line : List Char} (h : line.getLast? ≠ some '\r') :
    dropReturn line = line := by
  rw [dropReturn, if_neg h]

lemma openLine_concat (line : List Char) : openLine (line ++ ['\n']) = dropReturn line := by
  simp [openLine]

/-- A line feed closes what stands before it, whatever follows. -/
lemma closedLines_append_feed (xs ys : List Char) :
    closedLines (xs ++ '\n' :: ys) = closedLines (xs ++ ['\n']) ++ closedLines ys := by
  induction xs with
  | nil => simp [closedLines]
  | cons c xs ih =>
      by_cases hc : c = '\n'
      · simp only [List.cons_append, closedLines, if_pos hc, ih]
      · simp only [List.cons_append, closedLines, if_neg hc, ih]
        cases h : closedLines (xs ++ ['\n']) with
        | nil =>
            have hflat := flatten_closedLines (xs ++ ['\n'])
            rw [h] at hflat
            simp at hflat
        | cons line rest => rfl

lemma closedLines_of_not_mem {xs : List Char} (h : '\n' ∉ xs) :
    closedLines (xs ++ ['\n']) = [xs ++ ['\n']] := by
  induction xs with
  | nil => simp [closedLines]
  | cons c xs ih =>
      rw [List.mem_cons, not_or] at h
      have hc : c ≠ '\n' := fun e => h.1 e.symm
      simp only [List.cons_append, closedLines, if_neg hc, ih h.2]

/-- A text without line feeds is one line, unless nothing stands in it. -/
lemma closedLines_of_feedFree {xs : List Char} (h : '\n' ∉ xs) (hne : xs ≠ []) :
    closedLines xs = [xs] := by
  induction xs with
  | nil => exact absurd rfl hne
  | cons c xs ih =>
      rw [List.mem_cons, not_or] at h
      have hc : c ≠ '\n' := fun e => h.1 e.symm
      by_cases hxs : xs = []
      · simp only [closedLines, if_neg hc, hxs]
      · simp only [closedLines, if_neg hc, ih h.2 hxs]

/-- What is said of lines may be said of them with or without the line feeds that close them, if it
does not depend on these. -/
lemma exists_mem_closedLines_iff {P : List Char → Prop} (hnil : ¬ P [])
    (hfeed : ∀ line, P (line ++ ['\n']) ↔ P line) (cs : List Char) :
    (∃ line ∈ closedLines cs, P line) ↔ ∃ line ∈ splitLines cs, P line := by
  by_cases hmem : '\n' ∈ cs
  · obtain ⟨first, rest, hcs, hfirst⟩ := List.eq_append_cons_of_mem hmem
    have hshorter : rest.length < cs.length := by
      rw [hcs, List.length_append, List.length_cons]
      omega
    have ih := exists_mem_closedLines_iff hnil hfeed rest
    rw [hcs, closedLines_append_feed, closedLines_of_not_mem hfirst, splitLines, cutAt_append,
      cutAt_of_not_mem hfirst]
    simp only [List.singleton_append, List.exists_mem_cons_iff, hfeed, ih, splitLines]
  · rw [splitLines, cutAt_of_not_mem hmem]
    by_cases hcs : cs = []
    · simp [hcs, closedLines, hnil]
    · rw [closedLines_of_feedFree hmem hcs]
termination_by cs.length

/-- The lines of a fragment have no line feeds. -/
lemma feedFree_of_mem_fragmentLines {fragment row : String} (h : row ∈ fragmentLines fragment) :
    FeedFree row := by
  obtain ⟨piece, hpiece, rfl⟩ := List.mem_map.mp h
  rw [FeedFree, String.toList_ofList]
  exact not_mem_of_mem_cutAt hpiece

/-! ## Rows -/

/-- The text of rows, each with a line feed after it. -/
def closeRows : List String → String
  | [] => ""
  | row :: rows => row ++ "\n" ++ closeRows rows

@[simp] lemma closeRows_nil : closeRows [] = "" := rfl

@[simp] lemma closeRows_cons (row : String) (rows : List String) :
    closeRows (row :: rows) = row ++ "\n" ++ closeRows rows := rfl

@[simp] lemma closeRows_append (first second : List String) :
    closeRows (first ++ second) = closeRows first ++ closeRows second := by
  induction first with
  | nil => simp
  | cons row rows ih => simp [ih, String.append_assoc]

/-- Rows that are written for one thing after the other. -/
lemma closeRows_flatMap {α : Type} (things : List α) (rows : α → List String) :
    closeRows (things.flatMap rows) = String.join (things.map fun a => closeRows (rows a)) := by
  induction things with
  | nil => rfl
  | cons a things ih =>
      rw [List.flatMap_cons, closeRows_append, ih, List.map_cons, String.join_cons]

/-- The lines of one row; there is one line if the row has no line feed in it. -/
def rowLines (row : String) : List String := readLines (row ++ "\n")

/-- The line that a row without line feeds is read as. -/
def readRow (row : String) : String := String.ofList (dropReturn row.toList)

/-- A row without line feeds is one line. -/
lemma rowLines_eq {row : String} (h : FeedFree row) : rowLines row = [readRow row] := by
  have hfeed : (row ++ "\n").toList = row.toList ++ ['\n'] := by simp
  rw [rowLines, readLines, hfeed, closedLines_of_not_mem h]
  simp [openLine_concat, readRow]

/-- Rows are read one after the other. -/
lemma readLines_closeRows (rows : List String) :
    readLines (closeRows rows) = rows.flatMap rowLines := by
  induction rows with
  | nil => rfl
  | cons row rows ih =>
      have hfeed : (closeRows (row :: rows)).toList
          = row.toList ++ '\n' :: (closeRows rows).toList := by simp
      have hrow : (row ++ "\n").toList = row.toList ++ ['\n'] := by simp
      rw [readLines, hfeed, closedLines_append_feed, List.map_append, List.flatMap_cons, ← ih]
      simp only [rowLines, readLines, hrow]

/-- A row that keeps its end reads as itself. -/
lemma readRow_eq_self {row : String} (h : row.toList.getLast? ≠ some '\r') : readRow row = row := by
  rw [readRow, dropReturn_eq_self h, String.ofList_toList]

/-- A row that keeps its end is one of the lines. -/
lemma mem_readLines_closeRows {row : String} (hfeed : FeedFree row) (hread : readRow row = row)
    {rows : List String} (h : row ∈ rows) : row ∈ readLines (closeRows rows) := by
  rw [readLines_closeRows, List.mem_flatMap]
  refine ⟨row, h, ?_⟩
  rw [rowLines_eq hfeed, hread]
  exact List.mem_singleton.mpr rfl

/-! ## Listings -/

/-- The lines before the first line equal to a mark. -/
def linesBefore (mark : String) (lines : List String) : List String :=
  lines.takeWhile (· != mark)

/-- What stands before a mark, whatever follows it. -/
lemma linesBefore_readLines {mark : String} (hfeed : FeedFree mark) (hread : readRow mark = mark)
    {rows : List String} (h : ∀ row ∈ rows, FeedFree row ∧ readRow row = row ∧ row ≠ mark)
    (after : List String) :
    linesBefore mark (readLines (closeRows (rows ++ mark :: after))) = rows := by
  have hlines : rows.flatMap rowLines = rows := by
    rw [List.flatMap_congr fun row hrow => by rw [rowLines_eq (h row hrow).1, (h row hrow).2.1]]
    exact List.flatMap_singleton' rows
  have hunmarked : ∀ row ∈ rows, (row != mark) = true := fun row hrow => by
    simpa using (h row hrow).2.2
  rw [readLines_closeRows, List.flatMap_append, List.flatMap_cons, rowLines_eq hfeed, hread, hlines,
    linesBefore, List.takeWhile_append_of_pos hunmarked]
  simp

/-- The lines after the last line equal to a mark. -/
def linesAfter (mark : String) (lines : List String) : List String :=
  lines.rtakeWhile (· != mark)

/-- What follows a mark that does not occur again. -/
lemma linesAfter_append {mark : String} (before : List String) {after : List String}
    (h : mark ∉ after) : linesAfter mark (before ++ mark :: after) = after := by
  induction after using List.reverseRecOn with
  | nil => exact List.rtakeWhile_concat_neg _ _ mark (by simp)
  | append_singleton after line ih =>
      simp only [List.mem_append, List.mem_singleton, not_or] at h
      have hline : (line != mark) = true := by simpa using fun e => h.2 e.symm
      rw [← List.cons_append, ← List.append_assoc, linesAfter,
        List.rtakeWhile_concat_pos _ _ line hline]
      exact congrArg (· ++ [line]) (ih h.1)

/-- A text without a given ending, if it has that ending. -/
def withoutEnding? (ending text : String) : Option String :=
  if ending.toList <:+ text.toList then
    some (String.ofList (text.toList.rdrop ending.toList.length))
  else none

lemma withoutEnding?_append (text ending : String) :
    withoutEnding? ending (text ++ ending) = some text := by
  have hsuffix : ending.toList <:+ (text ++ ending).toList := by simp
  rw [withoutEnding?, if_pos hsuffix]
  simp [List.rdrop]

/-- A text whose last character is another one does not have the ending. -/
lemma withoutEnding?_eq_none {ending text : String} {c : Char}
    (hending : ending.toList.getLast? = some c) (htext : text.toList.getLast? ≠ some c) :
    withoutEnding? ending text = none := by
  have hsuffix : ¬ ending.toList <:+ text.toList := by
    rintro ⟨front, h⟩
    apply htext
    rw [← h, List.getLast?_append, hending]
    rfl
  rw [withoutEnding?, if_neg hsuffix]

/-- In rows, none of them the mark, a reader of lines finds these items. -/
structure Shows (mark : String) (read : String → Option String) (rows items : List String) :
    Prop where
  feedFree : ∀ row ∈ rows, FeedFree row
  unmarked : ∀ row ∈ rows, readRow row ≠ mark
  found : rows.filterMap (fun row => read (readRow row)) = items

namespace Shows

variable {mark : String} {read : String → Option String} {rows items : List String}

/-- A row without an item in it. -/
lemma silent {row : String} (hfeed : FeedFree row) (hmark : readRow row ≠ mark)
    (hread : read (readRow row) = none) : Shows mark read [row] [] where
  feedFree := by simpa using hfeed
  unmarked := by simpa using hmark
  found := by simp [hread]

/-- A row with one item in it. -/
lemma single {row item : String} (hfeed : FeedFree row) (hmark : readRow row ≠ mark)
    (hread : read (readRow row) = some item) : Shows mark read [row] [item] where
  feedFree := by simpa using hfeed
  unmarked := by simpa using hmark
  found := by simp [hread]

lemma append {rows' items' : List String} (h : Shows mark read rows items)
    (h' : Shows mark read rows' items') : Shows mark read (rows ++ rows') (items ++ items') where
  feedFree row hrow := (List.mem_append.mp hrow).elim (h.feedFree row) (h'.feedFree row)
  unmarked row hrow := (List.mem_append.mp hrow).elim (h.unmarked row) (h'.unmarked row)
  found := by rw [List.filterMap_append, h.found, h'.found]

lemma nil : Shows mark read [] [] := ⟨by simp, by simp, rfl⟩

/-- Rows without an item among them. -/
lemma silence {rows : List String} (h : ∀ row ∈ rows, Shows mark read [row] []) :
    Shows mark read rows [] := by
  induction rows with
  | nil => exact nil
  | cons row rows ih =>
      exact (h row List.mem_cons_self).append (ih fun r hr => h r (List.mem_cons_of_mem row hr))

/-- Rows that are written for one thing after the other. -/
lemma flatMap {α : Type} {things : List α} {rows items : α → List String}
    (h : ∀ a ∈ things, Shows mark read (rows a) (items a)) :
    Shows mark read (things.flatMap rows) (things.flatMap items) := by
  induction things with
  | nil => exact nil
  | cons a things ih =>
      rw [List.flatMap_cons, List.flatMap_cons]
      exact (h a List.mem_cons_self).append (ih fun b hb => h b (List.mem_cons_of_mem a hb))

/-- Below the mark a reader finds what the rows there show. -/
theorem read_eq (h : Shows mark read rows items) (hfeed : FeedFree mark)
    (hmark : readRow mark = mark) (before : List String) :
    (linesAfter mark (readLines (closeRows (before ++ mark :: rows)))).filterMap read = items := by
  have hrows : rows.flatMap rowLines = rows.map readRow := by
    rw [← List.flatMap_singleton' (rows.map readRow), List.flatMap_map]
    exact List.flatMap_congr fun row hrow => rowLines_eq (h.feedFree row hrow)
  have hafter : mark ∉ rows.map readRow := by
    intro hmem
    obtain ⟨row, hrow, heq⟩ := List.mem_map.mp hmem
    exact h.unmarked row hrow heq
  rw [readLines_closeRows, List.flatMap_append, List.flatMap_cons, rowLines_eq hfeed, hmark, hrows,
    List.singleton_append, linesAfter_append _ hafter, List.filterMap_map]
  exact h.found

end Shows

end ClassBridge.Text
