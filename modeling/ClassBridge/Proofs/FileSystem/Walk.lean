import ClassBridge.Proofs.FileSystem.Paths
import ClassBridge.Proofs.Sequencing
import Mathlib.Data.List.Induction

/-!
# Walks through directories

**Well-formed file systems.**  Everything but the root stands in a directory, under a name that a
path can spell, and relative paths start in a directory (`WellFormed`).

**Walks.**  Where a walk leads depends on the directories that it passes.  So it leads to the same
place in every file system that has those directories (`walk_mono`), and a walk that never goes up
leads straight down (`walk_eq_append`); it succeeds if there is a directory at its end
(`walk_to_directory`).
-/

namespace ClassBridge.FileSystem

open ClassBridge.Path

variable {fs fs' : FileSystem}

/-- What holds of every file system that can come about. -/
structure WellFormed (fs : FileSystem) : Prop where
  parents : ∀ location name, fs.nodeAt? (location ++ [name]) ≠ none →
    fs.nodeAt? location = some .directory
  names : ∀ location, fs.nodeAt? location ≠ none → ∀ name ∈ location, IsEntryName name
  current : fs.nodeAt? fs.current = some .directory

/-- Everything above a node is a directory. -/
lemma WellFormed.above (h : fs.WellFormed) {location below : Location} (hbelow : below ≠ [])
    (hnode : fs.nodeAt? (location ++ below) ≠ none) : fs.nodeAt? location = some .directory := by
  induction below using List.reverseRecOn with
  | nil => exact absurd rfl hbelow
  | append_singleton below name ih =>
      have hparent : fs.nodeAt? (location ++ below) = some .directory := by
        rw [← List.append_assoc] at hnode
        exact h.parents _ _ hnode
      cases below with
      | nil => simpa using hparent
      | cons part below => exact ih (List.cons_ne_nil _ _) (by simp [hparent])

/-! ## Walks -/

/-- Where steps lead from a directory. -/
def walk (fs : FileSystem) (start : Location) (path : List String) : Except FileError Location :=
  path.foldlM fs.enter start

/-- Every directory is still one. -/
def DirectoriesStay (fs fs' : FileSystem) : Prop :=
  ∀ location, fs.nodeAt? location = some .directory → fs'.nodeAt? location = some .directory

@[simp] lemma walk_nil (fs : FileSystem) (start : Location) : fs.walk start [] = .ok start := rfl

lemma walk_cons_eq_ok {start location : Location} {step : String} {path : List String} :
    fs.walk start (step :: path) = .ok location
      ↔ ∃ next, fs.enter start step = .ok next ∧ fs.walk next path = .ok location := by
  rw [walk, List.foldlM_cons, Check.bind_eq_ok]
  rfl

lemma walk_append_eq_ok {start location : Location} {path path' : List String} :
    fs.walk start (path ++ path') = .ok location
      ↔ ∃ next, fs.walk start path = .ok next ∧ fs.walk next path' = .ok location := by
  rw [walk, List.foldlM_append, Check.bind_eq_ok]
  rfl

lemma walk_append_of_ok {start next : Location} {path : List String}
    (h : fs.walk start path = .ok next) (path' : List String) :
    fs.walk start (path ++ path') = fs.walk next path' := by
  rw [walk, List.foldlM_append, ← walk, h]
  rfl

/-- A step into a directory. -/
lemma enter_eq_ok_iff {start location : Location} {step : String} (hhere : step ≠ ".")
    (habove : step ≠ "..") :
    fs.enter start step = .ok location
      ↔ step.utf8ByteSize ≤ nameLimit ∧ fs.nodeAt? (start ++ [step]) = some .directory
        ∧ location = start ++ [step] := by
  rw [enter, if_neg hhere, if_neg habove]
  by_cases hlimit : nameLimit < step.utf8ByteSize
  · rw [if_pos hlimit]
    constructor
    · intro h
      cases h
    · rintro ⟨hle, -⟩
      omega
  · rw [if_neg hlimit]
    cases hnode : fs.nodeAt? (start ++ [step]) with
    | none => simp
    | some node =>
        cases node with
        | file content => simp
        | directory =>
            simp only [Except.ok.injEq, true_and]
            constructor
            · rintro rfl
              exact ⟨by omega, rfl⟩
            · rintro ⟨-, rfl⟩
              rfl

lemma enter_mono (h : DirectoriesStay fs fs') {start location : Location} {step : String}
    (hstep : fs.enter start step = .ok location) : fs'.enter start step = .ok location := by
  by_cases hhere : step = "."
  · rw [enter, if_pos hhere] at hstep ⊢
    exact hstep
  · by_cases habove : step = ".."
    · rw [enter, if_neg hhere, if_pos habove] at hstep ⊢
      exact hstep
    · obtain ⟨hlimit, hnode, rfl⟩ := (enter_eq_ok_iff hhere habove).mp hstep
      exact (enter_eq_ok_iff hhere habove).mpr ⟨hlimit, h _ hnode, rfl⟩

/-- More directories do not change where a walk leads. -/
theorem walk_mono (h : DirectoriesStay fs fs') {start location : Location} {path : List String}
    (hwalk : fs.walk start path = .ok location) : fs'.walk start path = .ok location := by
  induction path generalizing start with
  | nil => exact hwalk
  | cons step path ih =>
      obtain ⟨next, hstep, hrest⟩ := walk_cons_eq_ok.mp hwalk
      exact walk_cons_eq_ok.mpr ⟨next, enter_mono h hstep, ih hrest⟩

/-- A walk from a directory leads to a directory. -/
lemma isDirectory_of_walk (hwf : fs.WellFormed) {start location : Location} {path : List String}
    (hstart : fs.nodeAt? start = some .directory) (hwalk : fs.walk start path = .ok location) :
    fs.nodeAt? location = some .directory := by
  induction path generalizing start with
  | nil =>
      cases hwalk
      exact hstart
  | cons step path ih =>
      obtain ⟨next, hstep, hrest⟩ := walk_cons_eq_ok.mp hwalk
      refine ih ?_ hrest
      by_cases hhere : step = "."
      · rw [enter, if_pos hhere] at hstep
        cases hstep
        exact hstart
      · by_cases habove : step = ".."
        · rw [enter, if_neg hhere, if_pos habove] at hstep
          cases hstep
          rcases List.eq_nil_or_concat start with rfl | ⟨front, name, rfl⟩
          · exact hstart
          · rw [List.concat_eq_append, List.dropLast_concat]
            rw [List.concat_eq_append] at hstart
            exact hwf.parents front name (by simp [hstart])
        · obtain ⟨-, hnode, rfl⟩ := (enter_eq_ok_iff hhere habove).mp hstep
          exact hnode

/-! ## Straight down -/

/-- The steps that lead on, without those that stay. -/
def names (path : List String) : List String := path.filter (· != ".")

@[simp] lemma names_nil : names [] = [] := rfl

lemma names_cons_here (path : List String) : names ("." :: path) = names path := rfl

lemma names_cons {step : String} (h : step ≠ ".") (path : List String) :
    names (step :: path) = step :: names path :=
  List.filter_cons_of_pos (by simpa using h)

lemma names_append (path path' : List String) :
    names (path ++ path') = names path ++ names path' :=
  List.filter_append path path'

lemma names_steps (path : String) : names (steps path) = parts path := (parts_eq path).symm

/-- A walk that never goes up. -/
theorem walk_eq_append {start location : Location} {path : List String} (h : ".." ∉ path)
    (hwalk : fs.walk start path = .ok location) :
    location = start ++ names path ∧ ∀ step ∈ path, step.utf8ByteSize ≤ nameLimit := by
  induction path generalizing start with
  | nil =>
      cases hwalk
      simp
  | cons step path ih =>
      rw [List.mem_cons, not_or] at h
      obtain ⟨next, hstep, hrest⟩ := walk_cons_eq_ok.mp hwalk
      obtain ⟨hlocation, hlimits⟩ := ih h.2 hrest
      by_cases hhere : step = "."
      · subst hhere
        rw [enter, if_pos rfl] at hstep
        cases hstep
        refine ⟨by rw [names_cons_here, hlocation], ?_⟩
        rw [List.forall_mem_cons]
        exact ⟨by decide, hlimits⟩
      · obtain ⟨hlimit, -, rfl⟩ := (enter_eq_ok_iff hhere fun e => h.1 e.symm).mp hstep
        refine ⟨?_, List.forall_mem_cons.mpr ⟨hlimit, hlimits⟩⟩
        rw [hlocation, names_cons hhere, List.append_assoc, List.singleton_append]

/-- A directory can be walked to from above. -/
theorem walk_to_directory (hwf : fs.WellFormed) {start : Location} {path : List String}
    (h : ".." ∉ path) (hlimits : ∀ step ∈ path, step.utf8ByteSize ≤ nameLimit)
    (hnode : fs.nodeAt? (start ++ names path) = some .directory) :
    fs.walk start path = .ok (start ++ names path) := by
  induction path generalizing start with
  | nil => simp
  | cons step path ih =>
      rw [List.mem_cons, not_or] at h
      rw [List.forall_mem_cons] at hlimits
      by_cases hhere : step = "."
      · subst hhere
        rw [names_cons_here] at hnode ⊢
        refine walk_cons_eq_ok.mpr ⟨start, ?_, ih h.2 hlimits.2 hnode⟩
        rw [enter, if_pos rfl]
      · have hsplit : start ++ names (step :: path) = (start ++ [step]) ++ names path := by
          rw [names_cons hhere, List.append_assoc, List.singleton_append]
        rw [hsplit] at hnode ⊢
        have hnext : fs.nodeAt? (start ++ [step]) = some .directory := by
          by_cases hnil : names path = []
          · simpa [hnil] using hnode
          · exact hwf.above hnil (by rw [hnode]; exact Option.some_ne_none _)
        refine walk_cons_eq_ok.mpr ⟨start ++ [step], ?_, ih h.2 hlimits.2 hnode⟩
        exact (enter_eq_ok_iff hhere fun e => h.1 e.symm).mpr ⟨hlimits.1, hnext, rfl⟩

end ClassBridge.FileSystem
