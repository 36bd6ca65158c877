import ClassBridge.FileSystem.Basic
import ClassBridge.Proofs.Text.Cut
import Mathlib.Data.List.Basic

/-!
# Steps of paths

The steps of a path that is put together are the steps of its parts, one after the other
(`steps_join`), and a relative path leaves the start of the one it is joined to alone.  Names that
are written with slashes between them are the steps of a path again, whether they are those of a
location (`steps_rooted`) or some of the parts of another path (`steps_pathOf`).
-/

namespace ClassBridge

namespace Path

/-- A name that a file or a directory may have inside a directory. -/
structure IsEntryName (name : String) : Prop where
  nonempty : name ≠ ""
  noSlash : '/' ∉ name.toList
  notHere : name ≠ "."
  notAbove : name ≠ ".."

instance (name : String) : Decidable (IsEntryName name) :=
  decidable_of_iff (name ≠ "" ∧ '/' ∉ name.toList ∧ name ≠ "." ∧ name ≠ "..")
    ⟨fun h => ⟨h.1, h.2.1, h.2.2.1, h.2.2.2⟩,
      fun h => ⟨h.nonempty, h.noSlash, h.notHere, h.notAbove⟩⟩

@[simp] lemma pieces_append_slash (first second : String) :
    pieces (first ++ "/" ++ second) = pieces first ++ pieces second := by
  have hlist : (first ++ "/" ++ second).toList = first.toList ++ '/' :: second.toList := by simp
  rw [pieces, hlist, Text.cutAt_append, List.map_append]
  rfl

lemma pieces_of_noSlash {name : String} (h : '/' ∉ name.toList) : pieces name = [name] := by
  rw [pieces, Text.cutAt_of_not_mem h, List.map_singleton, String.ofList_toList]

lemma isAbsolute_of_noSlash {name : String} (h : '/' ∉ name.toList) : isAbsolute name = false := by
  unfold isAbsolute
  cases hlist : name.toList with
  | nil => rfl
  | cons c rest =>
      rw [hlist, List.mem_cons, not_or] at h
      simpa using fun e => h.1 e.symm

/-- A path that ends in a slash is one before that slash. -/
lemma exists_of_getLast?_slash {path : String} (h : path.toList.getLast? = some '/') :
    ∃ front, path = front ++ "/" := by
  obtain ⟨front, hlist⟩ := List.getLast?_eq_some_iff.mp h
  refine ⟨String.ofList front, ?_⟩
  apply String.toList_injective
  simp [hlist]

end Path

open ClassBridge.Path

namespace FileSystem

/-! ## Steps -/

lemma mem_steps {path step : String} (h : step ∈ steps path) :
    step ≠ "" ∧ '/' ∉ step.toList := by
  obtain ⟨hpiece, hne⟩ := List.mem_filter.mp h
  refine ⟨by simpa using hne, ?_⟩
  obtain ⟨piece, hcut, rfl⟩ := List.mem_map.mp hpiece
  rw [String.toList_ofList]
  exact Text.not_mem_of_mem_cutAt hcut

lemma steps_append_slash (first second : String) :
    steps (first ++ "/" ++ second) = steps first ++ steps second := by
  rw [steps, pieces_append_slash, List.filter_append]
  rfl

@[simp] lemma steps_empty : steps "" = [] := by decide

lemma steps_append_close (path : String) : steps (path ++ "/") = steps path := by
  have h := steps_append_slash path ""
  rw [String.append_empty, steps_empty, List.append_nil] at h
  exact h

/-- The steps of a path below a directory. -/
theorem steps_join (directory : String) {path : String} (h : isAbsolute path = false) :
    steps (join directory path) = steps directory ++ steps path := by
  rw [join, if_neg (by simp [h])]
  split
  · rename_i hends
    rcases (Bool.or_eq_true _ _).mp hends with hempty | hslash
    · rw [eq_of_beq hempty, String.empty_append, steps_empty, List.nil_append]
    · obtain ⟨front, rfl⟩ := exists_of_getLast?_slash (eq_of_beq hslash)
      rw [steps_append_slash, steps_append_close]
  · exact steps_append_slash directory path

/-- A relative path leaves the start of a path alone. -/
lemma isAbsolute_join (directory : String) {path : String} (h : isAbsolute path = false) :
    isAbsolute (join directory path) = isAbsolute directory := by
  rw [join, if_neg (by simp [h])]
  by_cases hempty : directory = ""
  · subst hempty
    have hstart : isAbsolute "" = false := by decide
    rw [String.empty_append, hstart]
    simpa using h
  · have hne : directory.toList ≠ [] := fun e => hempty (String.toList_injective (by simpa using e))
    split
    · rw [isAbsolute, String.toList_append, List.head?_append_of_ne_nil _ hne]
      rfl
    · rw [isAbsolute, String.toList_append, String.toList_append, List.append_assoc,
        List.head?_append_of_ne_nil _ hne]
      rfl

/-- What relative paths are put behind depends on the directory alone. -/
lemma exists_join_eq (directory : String) :
    ∃ front, ∀ path, isAbsolute path = false → join directory path = front ++ path := by
  by_cases hends : directory = "" ∨ directory.toList.getLast? = some '/'
  · refine ⟨directory, fun path h => ?_⟩
    rw [join, if_neg (by simp [h]), if_pos (by simpa using hends)]
  · refine ⟨directory ++ "/", fun path h => ?_⟩
    rw [join, if_neg (by simp [h]), if_neg (by simpa using hends)]

lemma parts_eq (path : String) : parts path = (steps path).filter (· != ".") := by
  rw [steps, List.filter_filter]
  refine List.filter_congr fun part _ => ?_
  rw [Bool.and_comm]

lemma parts_join (directory : String) {path : String} (h : isAbsolute path = false) :
    parts (join directory path) = parts directory ++ parts path := by
  rw [parts_eq, steps_join directory h, List.filter_append, ← parts_eq, ← parts_eq]

lemma steps_of_noSlash {name : String} (hne : name ≠ "") (hslash : '/' ∉ name.toList) :
    steps name = [name] := by
  rw [steps, pieces_of_noSlash hslash]
  simp [hne]

lemma steps_of_isEntryName {name : String} (h : IsEntryName name) : steps name = [name] :=
  steps_of_noSlash h.nonempty h.noSlash

lemma steps_entry_slash {name : String} (h : IsEntryName name) (path : String) :
    steps (name ++ "/" ++ path) = name :: steps path := by
  rw [steps_append_slash, steps_of_isEntryName h]
  rfl

lemma parts_entry_slash {name : String} (h : IsEntryName name) (path : String) :
    parts (name ++ "/" ++ path) = name :: parts path := by
  rw [parts_eq, steps_entry_slash h, List.filter_cons_of_pos (by simpa using h.notHere), parts_eq]

lemma isAbsolute_name_slash {name : String} (hne : name ≠ "") (hslash : '/' ∉ name.toList)
    (path : String) : isAbsolute (name ++ "/" ++ path) = false := by
  have hlist : name.toList ≠ [] := fun e => hne (String.toList_injective (by simpa using e))
  have hstart := isAbsolute_of_noSlash hslash
  rw [isAbsolute, String.append_assoc, String.toList_append, List.head?_append_of_ne_nil _ hlist]
  exact hstart

lemma isAbsolute_entry_slash {name : String} (h : IsEntryName name) (path : String) :
    isAbsolute (name ++ "/" ++ path) = false := isAbsolute_name_slash h.nonempty h.noSlash path

/-- What stands behind a plain name is divided from it by a slash. -/
lemma join_join (root : String) {name path : String} (hname : IsEntryName name)
    (hpath : isAbsolute path = false) :
    join (join root name) path = join root (name ++ "/" ++ path) := by
  have hne : name.toList ≠ [] := fun e =>
    hname.nonempty (String.toList_injective (by simpa using e))
  obtain ⟨front, hfront⟩ := exists_join_eq root
  have hends : ¬ (front ++ name = "" ∨ (front ++ name).toList.getLast? = some '/') := by
    rintro (hempty | hslash)
    · have hlist := congrArg String.toList hempty
      rw [String.toList_append] at hlist
      exact hne (List.append_eq_nil_iff.mp hlist).2
    · rw [String.toList_append, List.getLast?_append_of_ne_nil _ hne] at hslash
      exact hname.noSlash (List.mem_of_getLast? hslash)
  rw [hfront name (isAbsolute_of_noSlash hname.noSlash),
    hfront _ (isAbsolute_entry_slash hname path), join, if_neg (by simp [hpath]),
    if_neg (by simpa using hends)]
  simp only [String.append_assoc]

/-! ## Names as paths -/

lemma steps_intercalate {names : List String} (h : ∀ name ∈ names, name ≠ "" ∧ '/' ∉ name.toList) :
    steps (String.intercalate "/" names) = names := by
  induction names with
  | nil => decide
  | cons name names ih =>
      rw [List.forall_mem_cons] at h
      have hname : steps name = [name] := steps_of_noSlash h.1.1 h.1.2
      have hrest := ih h.2
      by_cases hnil : names = []
      · rw [hnil, String.intercalate_singleton, hname]
      · rw [String.intercalate_cons_of_ne_nil hnil, steps_append_slash, hname, hrest]
        rfl

lemma steps_slash_append (path : String) : steps ("/" ++ path) = steps path := by
  have hslash := steps_append_slash "" path
  rwa [String.empty_append, steps_empty, List.nil_append] at hslash

/-- The path of a location from the root. -/
lemma steps_rooted {location : Location} (h : ∀ name ∈ location, IsEntryName name) :
    steps ("/" ++ String.intercalate "/" location) = location := by
  rw [steps_slash_append]
  exact steps_intercalate fun name hname => ⟨(h name hname).nonempty, (h name hname).noSlash⟩

lemma isAbsolute_rooted (location : Location) :
    isAbsolute ("/" ++ String.intercalate "/" location) = true := by
  simp [isAbsolute]

lemma mem_parts {path part : String} (h : part ∈ parts path) :
    part ≠ "" ∧ '/' ∉ part.toList ∧ part ≠ "." := by
  rw [parts_eq] at h
  obtain ⟨hstep, hhere⟩ := List.mem_filter.mp h
  obtain ⟨hne, hslash⟩ := mem_steps hstep
  exact ⟨hne, hslash, by simpa using hhere⟩

/-- The path of some of the parts of a path. -/
lemma steps_pathOf (absolute : Bool) {names : List String}
    (h : ∀ name ∈ names, name ≠ "" ∧ '/' ∉ name.toList) :
    steps (pathOf absolute names) = names := by
  cases absolute with
  | true => exact (steps_slash_append _).trans (steps_intercalate h)
  | false =>
      show steps ("" ++ String.intercalate "/" names) = names
      rw [String.empty_append, steps_intercalate h]

lemma isAbsolute_pathOf (absolute : Bool) {names : List String}
    (h : ∀ name ∈ names, name ≠ "" ∧ '/' ∉ name.toList) :
    isAbsolute (pathOf absolute names) = absolute := by
  cases absolute with
  | true => exact isAbsolute_rooted names
  | false =>
      show isAbsolute ("" ++ String.intercalate "/" names) = false
      rw [String.empty_append]
      cases names with
      | nil => decide
      | cons name names =>
          rw [List.forall_mem_cons] at h
          by_cases hnil : names = []
          · rw [hnil, String.intercalate_singleton]
            exact isAbsolute_of_noSlash h.1.2
          · rw [String.intercalate_cons_of_ne_nil hnil]
            exact isAbsolute_name_slash h.1.1 h.1.2 _

end FileSystem

end ClassBridge
