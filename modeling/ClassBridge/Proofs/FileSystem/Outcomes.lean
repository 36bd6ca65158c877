import ClassBridge.Proofs.FileSystem.Creation
import Mathlib.Tactic.SplitIfs

/-!
# How operations end

What an operation does is decided by where its path leads, and this module says how, failures
included.

**Paths.**  A path with steps leads where the walk along all but the last of them leads, and then to
what the last one makes of it (`resolve_of_steps_concat`).

**Directories.**  Ensuring a directory either finds it, or puts it where nothing is
(`ensureDirectory_eq`).  Creating a directory with those above it goes up along the parts of its
path until one is found (`createDirectories_pathOf`), and changes nothing if the directory is there
(`createDirectories_of_reaches`).
-/

namespace ClassBridge.FileSystem

open ClassBridge.Path

variable {fs fs' : FileSystem} {location : Location}

/-! ## Paths -/

/-- What the last step of a path makes of the directory that the others lead to. -/
def arrive (directory : Location) (last : String) : Except FileError Target :=
  if last = "." then .ok (.directory directory)
  else if last = ".." then .ok (.directory directory.dropLast)
  else if nameLimit < last.utf8ByteSize then .error .nameTooLong
  else .ok (.entry directory last)

lemma resolve_of_steps_concat {path last : String} {above : List String} (hpath : Permitted path)
    (hsteps : steps path = above ++ [last]) :
    fs.resolve path
      = (fs.walk (fs.startOf path) above >>= fun directory => arrive directory last) := by
  rw [resolve, approach_of_steps_concat hpath hsteps, bind_assoc]
  refine bind_congr fun directory => ?_
  unfold arrive
  by_cases hhere : last = "."
  · rw [if_pos hhere, if_pos hhere]
    rfl
  · rw [if_neg hhere, if_neg hhere]
    by_cases habove : last = ".."
    · rw [if_pos habove, if_pos habove]
      rfl
    · rw [if_neg habove, if_neg habove]
      rfl

/-- A path that the system does not take is refused, but never as one that leads to nothing, unless
it is empty. -/
lemma permitted_of_resolve (fs : FileSystem) {path : String} (hne : path ≠ "") :
    (∀ target, fs.resolve path = .ok target → Permitted path)
      ∧ (fs.resolve path = .error .notFound → Permitted path) := by
  constructor
  · intro target h
    obtain ⟨target', happroach, -⟩ := Check.bind_eq_ok.mp h
    exact permitted_of_approach happroach
  · intro h
    by_contra hpath
    have hnul : path.toList.contains '\x00' = false := by
      by_contra hnul
      rw [Bool.not_eq_false] at hnul
      rw [resolve, approach, if_neg hne, if_pos hnul] at h
      cases h
    have hshort : ¬ pathLimit < path.utf8ByteSize := by
      intro hlong
      rw [resolve, approach, if_neg hne, if_neg (by rw [hnul]; decide), if_pos hlong] at h
      cases h
    exact hpath ⟨hne, hnul, by omega⟩

lemma permitted_of_find {path : String} {found : Location × Node} (h : fs.find path = .ok found) :
    Permitted path := by
  obtain ⟨target, hresolve, -⟩ := Check.bind_eq_ok.mp h
  obtain ⟨target', happroach, -⟩ := Check.bind_eq_ok.mp hresolve
  exact permitted_of_approach happroach

/-- A path that leads to a directory finds it. -/
theorem find_of_reaches (hwf : fs.WellFormed) {path : String} (hpath : Permitted path)
    (h : fs.Reaches path location) : fs.find path = .ok (location, .directory) := by
  have hnode := isDirectory_of_walk hwf (nodeAt?_startOf hwf path) h
  rcases List.eq_nil_or_concat (steps path) with hsteps | ⟨above, last, hsteps⟩
  · rw [Reaches, hsteps, walk_nil] at h
    cases h
    rw [find, resolve, approach_of_steps_nil hpath hsteps]
    rfl
  · rw [List.concat_eq_append] at hsteps
    rw [Reaches, hsteps] at h
    obtain ⟨directory, hwalk, hlast⟩ := walk_append_eq_ok.mp h
    obtain ⟨reached, hstep, hend⟩ := walk_cons_eq_ok.mp hlast
    cases hend
    have hresolve : fs.resolve path = arrive directory last := by
      rw [resolve_of_steps_concat hpath hsteps, hwalk]
      rfl
    rw [find, hresolve]
    by_cases hhere : last = "."
    · rw [enter, if_pos hhere] at hstep
      cases hstep
      rw [arrive, if_pos hhere]
      rfl
    · by_cases habove : last = ".."
      · rw [enter, if_neg hhere, if_pos habove] at hstep
        cases hstep
        rw [arrive, if_neg hhere, if_pos habove]
        rfl
      · obtain ⟨hlimit, -, rfl⟩ := (enter_eq_ok_iff hhere habove).mp hstep
        rw [arrive, if_neg hhere, if_neg habove, if_neg (by omega)]
        simp [bind, Except.bind, hnode]

/-! ## Directories -/

/-- What ensuring a directory does with the place that its path leads to. -/
def settle (fs : FileSystem) : Target → Except FileError FileSystem
  | .directory _ => .ok fs
  | .entry directory name =>
    match fs.nodeAt? (directory ++ [name]) with
    | none => .ok (fs.put (directory ++ [name]) .directory)
    | some .directory => .ok fs
    | some (.file _) => .error .exists

theorem ensureDirectory_eq (fs : FileSystem) (path : String) :
    fs.ensureDirectory path = (fs.resolve path >>= fs.settle) := by
  unfold ensureDirectory createDirectory isDirectory find
  cases hresolve : fs.resolve path with
  | error error => cases error <;> rfl
  | ok target =>
      cases target with
      | directory reached => rfl
      | entry directory name =>
          show _ = fs.settle (.entry directory name)
          rw [settle]
          cases hnode : fs.nodeAt? (directory ++ [name]) with
          | none => simp [bind, Except.bind, hnode]
          | some node =>
              cases node with
              | directory => simp [bind, Except.bind, hnode]
              | file content => cases isClosed path <;> simp [bind, Except.bind, hnode]

/-- Ensuring a directory that is there changes nothing. -/
lemma ensureDirectory_of_find {path : String} (h : fs.find path = .ok (location, .directory)) :
    fs.ensureDirectory path = .ok fs := by
  obtain ⟨target, hresolve, htarget⟩ := Check.bind_eq_ok.mp h
  rw [ensureDirectory_eq]
  refine Check.bind_eq_ok.mpr ⟨target, hresolve, ?_⟩
  cases target with
  | directory reached => rfl
  | entry directory name =>
      rw [settle]
      cases hnode : fs.nodeAt? (directory ++ [name]) with
      | none => simp [hnode] at htarget
      | some node =>
          cases node with
          | directory => rfl
          | file content =>
              simp only [hnode] at htarget
              split at htarget <;> cases htarget

/-- What creating a directory with those above it comes to in the end. -/
lemma exists_ensureDirectory {path : String} (hne : path ≠ "")
    (h : createDirectories path fs = (none, fs')) :
    ∃ middle, ensureDirectory middle path = .ok fs' := by
  rw [createDirectories, if_neg hne] at h
  split at h
  · rename_i hensure
    cases h
    exact ⟨fs, hensure⟩
  · split at h
    · cases h
    · rename_i middle habove
      split at h
      · rename_i hensure
        cases h
        exact ⟨middle, hensure⟩
      · cases h
  · cases h

lemma permitted_of_createDirectories {path : String} (hne : path ≠ "")
    (h : createDirectories path fs = (none, fs')) : Permitted path := by
  obtain ⟨middle, hensure⟩ := exists_ensureDirectory hne h
  rw [ensureDirectory_eq] at hensure
  obtain ⟨target, hresolve, -⟩ := Check.bind_eq_ok.mp hensure
  exact (permitted_of_resolve _ hne).1 target hresolve

/-- Nothing has to be created where a directory is. -/
theorem createDirectories_of_reaches (hwf : fs.WellFormed) {path : String}
    (hpath : path ≠ "" → Permitted path) (h : fs.Reaches path location) :
    createDirectories path fs = (none, fs) := by
  rw [createDirectories]
  by_cases hne : path = ""
  · rw [if_pos hne]
  · rw [if_neg hne, ensureDirectory_of_find (find_of_reaches hwf (hpath hne) h)]

/-- How a directory comes to be created: at once, or after those above it. -/
lemma createFromParts_cons_eq_none_iff {absolute : Bool} {part : String} {above : List String} :
    createFromParts absolute (part :: above) fs = (none, fs')
      ↔ fs.ensureDirectory (pathOf absolute (above.reverse ++ [part])) = .ok fs'
        ∨ fs.ensureDirectory (pathOf absolute (above.reverse ++ [part])) = .error .notFound
          ∧ ∃ middle, createFromParts absolute above fs = (none, middle)
            ∧ middle.ensureDirectory (pathOf absolute (above.reverse ++ [part])) = .ok fs' := by
  rw [createFromParts]
  cases hensure : fs.ensureDirectory (pathOf absolute (above.reverse ++ [part])) with
  | ok made => simp
  | error error =>
      cases error with
      | notFound =>
          obtain ⟨refused, middle⟩ := createFromParts absolute above fs
          cases refused with
          | some error => simp
          | none =>
              cases hagain : middle.ensureDirectory (pathOf absolute (above.reverse ++ [part])) <;>
                simp [hagain]
      | _ => simp

/-- Creating a directory goes up along the parts of its path, the last one first. -/
theorem createDirectories_pathOf (absolute : Bool) {path : String} {trail : List String}
    (htrail : trail <+: parts path) (hne : trail ≠ []) (fs : FileSystem) :
    createDirectories (pathOf absolute trail) fs = createFromParts absolute trail.reverse fs := by
  have hnames : ∀ name ∈ trail, name ≠ "" ∧ '/' ∉ name.toList := fun name hname =>
    ⟨(mem_parts (htrail.subset hname)).1, (mem_parts (htrail.subset hname)).2.1⟩
  have hpath : pathOf absolute trail ≠ "" := by
    intro hempty
    have hsteps := steps_pathOf absolute hnames
    rw [hempty, steps_empty] at hsteps
    exact hne hsteps.symm
  rw [createDirectories, if_neg hpath, isAbsolute_pathOf absolute hnames,
    parts_pathOf absolute htrail]
  obtain ⟨above, last, rfl⟩ := (List.eq_nil_or_concat trail).resolve_left hne
  rw [List.concat_eq_append, List.dropLast_concat, List.reverse_append, List.reverse_singleton,
    List.singleton_append, createFromParts, List.reverse_reverse]

/-- A path that can be followed up to its last step is not one that leads to nothing. -/
lemma ensureDirectory_ne_notFound {path last : String} {above : List String}
    (hsteps : steps path = above ++ [last])
    (hwalk : fs.walk (fs.startOf path) above = .ok location) :
    fs.ensureDirectory path ≠ .error .notFound := by
  have hne : path ≠ "" := by
    rintro rfl
    rw [steps_empty] at hsteps
    simp at hsteps
  intro h
  rw [ensureDirectory_eq] at h
  cases hresolve : fs.resolve path with
  | error error =>
      rw [hresolve] at h
      cases h
      have hpath := (permitted_of_resolve fs hne).2 hresolve
      rw [resolve_of_steps_concat hpath hsteps, hwalk] at hresolve
      change arrive location last = _ at hresolve
      unfold arrive at hresolve
      split_ifs at hresolve
      cases hresolve
  | ok target =>
      rw [hresolve] at h
      change fs.settle target = _ at h
      unfold settle at h
      split at h
      · cases h
      · split at h <;> cases h

/-! ## Writing -/

/-- What writing a file does with the place that its path leads to. -/
def deposit (fs : FileSystem) (content : ByteArray) : Target → Except FileError FileSystem
  | .directory _ => .error .isDirectory
  | .entry directory name =>
    match fs.nodeAt? (directory ++ [name]) with
    | some .directory => .error .isDirectory
    | _ => .ok (fs.put (directory ++ [name]) (.file content))

lemma write_eq {path : String} (hclosed : isClosed path = false) (content : ByteArray) :
    fs.write path content = (fs.resolve path >>= fs.deposit content) := by
  unfold write
  rw [if_neg (by simp [hclosed])]
  refine bind_congr fun target => ?_
  cases target <;> rfl

/-- A file is put where no directory is. -/
lemma deposit_entry {directory : Location} {name : String}
    (h : fs.nodeAt? (directory ++ [name]) ≠ some .directory) (content : ByteArray) :
    fs.deposit content (.entry directory name)
      = .ok (fs.put (directory ++ [name]) (.file content)) := by
  rw [deposit]
  split
  · rename_i hdirectory
    exact absurd hdirectory h
  · rfl

lemma isClosed_of_write {path : String} {content : ByteArray}
    (h : fs.write path content = .ok fs') : isClosed path = false := by
  unfold write at h
  split at h
  · obtain ⟨target, -, htarget⟩ := Check.bind_eq_ok.mp h
    cases htarget
  · rename_i hclosed
    simpa using hclosed

/-! ## Taking away -/

/-- What is put below a location goes with it. -/
lemma removeTree_put {other : Location} (h : location <+: other) (node : Node) :
    (fs.put other node).removeTree location = fs.removeTree location := by
  have hbelow : location.isPrefixOf other = true := List.isPrefixOf_iff_prefix.mpr h
  rw [removeTree, removeTree, put, List.filter_cons_of_neg (by simp [hbelow]), List.filter_filter]
  congr 1
  refine List.filter_congr fun entry _ => ?_
  by_cases heq : entry.1 = other
  · simp [heq, hbelow]
  · simp [heq]

/-- Nothing goes where nothing is. -/
lemma removeTree_eq_self (hne : location ≠ [])
    (h : ∀ other, location <+: other → fs.nodeAt? other = none) : fs.removeTree location = fs := by
  have hkept : fs.nodes.filter (fun entry => !location.isPrefixOf entry.1) = fs.nodes := by
    refine List.filter_eq_self.mpr fun entry hentry => ?_
    rw [Bool.not_eq_true', Bool.eq_false_iff]
    intro hpre
    rw [List.isPrefixOf_iff_prefix] at hpre
    have hentry' : entry.1 ≠ [] := by
      intro hnil
      rw [hnil, List.prefix_nil] at hpre
      exact hne hpre
    have hnone := h entry.1 hpre
    rw [nodeAt?, if_neg hentry', Option.map_eq_none_iff, List.find?_eq_none] at hnone
    simpa using hnone entry hentry
  rw [removeTree, hkept]

end ClassBridge.FileSystem
