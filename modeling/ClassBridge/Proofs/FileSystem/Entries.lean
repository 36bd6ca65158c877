import ClassBridge.Proofs.FileSystem.Walk

/-!
# Where paths lead

**Entries.**  `resolve_eq_entry_iff` says when a path names an entry of a directory, and
`read_eq_ok_iff` when it names a file that can be read.

**Below a directory.**  A path that is joined to that of a directory and does not go up names the
location of its parts there (`location_of_resolve_join`), and as long as something stands at that
location it can be followed (`resolve_join_of_node`).
-/

namespace ClassBridge.FileSystem

open ClassBridge.Path

variable {fs fs' : FileSystem}

/-! ## Entries -/

/-- Where a path starts. -/
def startOf (fs : FileSystem) (path : String) : Location :=
  if isAbsolute path then [] else fs.current

/-- A path that the system takes. -/
structure Permitted (path : String) : Prop where
  nonempty : path ≠ ""
  noNul : path.toList.contains '\x00' = false
  short : path.utf8ByteSize ≤ pathLimit

/-- A path that leads to a directory. -/
def Reaches (fs : FileSystem) (path : String) (location : Location) : Prop :=
  fs.walk (fs.startOf path) (steps path) = .ok location

lemma permitted_of_approach {path : String} {target : Target} (h : fs.approach path = .ok target) :
    Permitted path := by
  unfold approach at h
  split at h
  · cases h
  · rename_i hempty
    split at h
    · cases h
    · rename_i hnul
      split at h
      · cases h
      · rename_i hlong
        exact ⟨hempty, by simpa using hnul, by omega⟩

/-- A path without steps stays where it starts. -/
lemma approach_of_steps_nil {path : String} (hpath : Permitted path) (hsteps : steps path = []) :
    fs.approach path = .ok (.directory (fs.startOf path)) := by
  rw [approach, if_neg hpath.nonempty, if_neg (by rw [hpath.noNul]; decide),
    if_neg (by have := hpath.short; omega), hsteps]
  rfl

/-- A path with steps is walked up to its last one. -/
lemma approach_of_steps_concat {path last : String} {above : List String} (hpath : Permitted path)
    (hsteps : steps path = above ++ [last]) :
    fs.approach path = (fs.walk (fs.startOf path) above >>= fun directory =>
      if last = "." then .ok (.directory directory)
      else if last = ".." then .ok (.directory directory.dropLast)
      else .ok (.entry directory last)) := by
  rw [approach, if_neg hpath.nonempty, if_neg (by rw [hpath.noNul]; decide),
    if_neg (by have := hpath.short; omega), hsteps]
  simp only [List.getLast?_concat, List.dropLast_concat]
  rfl

lemma approach_eq_entry_iff {path name : String} {directory : Location} :
    fs.approach path = .ok (.entry directory name)
      ↔ Permitted path ∧ ∃ above, steps path = above ++ [name] ∧ name ≠ "." ∧ name ≠ ".."
        ∧ fs.walk (fs.startOf path) above = .ok directory := by
  constructor
  · intro h
    have hpath := permitted_of_approach h
    refine ⟨hpath, ?_⟩
    rcases List.eq_nil_or_concat (steps path) with hsteps | ⟨above, last, hsteps⟩
    · rw [approach_of_steps_nil hpath hsteps] at h
      cases h
    · rw [List.concat_eq_append] at hsteps
      rw [approach_of_steps_concat hpath hsteps] at h
      obtain ⟨reached, hwalk, htarget⟩ := Check.bind_eq_ok.mp h
      split at htarget
      · cases htarget
      · rename_i hhere
        split at htarget
        · cases htarget
        · rename_i habove
          cases htarget
          exact ⟨above, hsteps, hhere, habove, hwalk⟩
  · rintro ⟨hpath, above, hsteps, hhere, habove, hwalk⟩
    rw [approach_of_steps_concat hpath hsteps]
    refine Check.bind_eq_ok.mpr ⟨directory, hwalk, ?_⟩
    rw [if_neg hhere, if_neg habove]

/-- A path that names a directory leads there. -/
lemma reaches_of_approach {path : String} {location : Location}
    (h : fs.approach path = .ok (.directory location)) : fs.Reaches path location := by
  have hpath := permitted_of_approach h
  rcases List.eq_nil_or_concat (steps path) with hsteps | ⟨above, last, hsteps⟩
  · rw [approach_of_steps_nil hpath hsteps] at h
    cases h
    rw [Reaches, hsteps, walk_nil]
  · rw [List.concat_eq_append] at hsteps
    rw [approach_of_steps_concat hpath hsteps] at h
    obtain ⟨reached, hwalk, htarget⟩ := Check.bind_eq_ok.mp h
    rw [Reaches, hsteps]
    refine walk_append_eq_ok.mpr ⟨reached, hwalk, walk_cons_eq_ok.mpr ⟨location, ?_, rfl⟩⟩
    split at htarget
    · rename_i hhere
      cases htarget
      rw [enter, if_pos hhere]
    · rename_i hhere
      split at htarget
      · rename_i habove
        cases htarget
        rw [enter, if_neg hhere, if_pos habove]
      · cases htarget

/-- When a path names an entry of a directory. -/
theorem resolve_eq_entry_iff {path name : String} {directory : Location} :
    fs.resolve path = .ok (.entry directory name)
      ↔ Permitted path ∧ ∃ above, steps path = above ++ [name] ∧ name ≠ "." ∧ name ≠ ".."
        ∧ name.utf8ByteSize ≤ nameLimit ∧ fs.walk (fs.startOf path) above = .ok directory := by
  have hresolve : fs.resolve path = .ok (.entry directory name)
      ↔ fs.approach path = .ok (.entry directory name) ∧ name.utf8ByteSize ≤ nameLimit := by
    rw [resolve, Check.bind_eq_ok]
    constructor
    · rintro ⟨target, happroach, htarget⟩
      cases target with
      | directory location => cases htarget
      | entry directory name =>
          simp only at htarget
          split at htarget
          · cases htarget
          · cases htarget
            exact ⟨happroach, by omega⟩
    · rintro ⟨happroach, hlimit⟩
      refine ⟨_, happroach, ?_⟩
      show (if nameLimit < name.utf8ByteSize then _ else _) = _
      rw [if_neg (by omega)]
  rw [hresolve, approach_eq_entry_iff]
  constructor
  · rintro ⟨⟨hpath, above, hsteps, hhere, habove, hwalk⟩, hlimit⟩
    exact ⟨hpath, above, hsteps, hhere, habove, hlimit, hwalk⟩
  · rintro ⟨hpath, above, hsteps, hhere, habove, hlimit, hwalk⟩
    exact ⟨⟨hpath, above, hsteps, hhere, habove, hwalk⟩, hlimit⟩

lemma reaches_of_resolve {path : String} {location : Location}
    (h : fs.resolve path = .ok (.directory location)) : fs.Reaches path location := by
  obtain ⟨target, happroach, htarget⟩ := Check.bind_eq_ok.mp h
  cases target with
  | directory reached =>
      cases htarget
      exact reaches_of_approach happroach
  | entry directory name =>
      simp only at htarget
      split at htarget
      · cases htarget
      · cases htarget

/-- A path at whose end a directory is found leads there. -/
lemma reaches_of_find {path : String} {location : Location}
    (h : fs.find path = .ok (location, .directory)) : fs.Reaches path location := by
  obtain ⟨target, hresolve, htarget⟩ := Check.bind_eq_ok.mp h
  cases target with
  | directory reached =>
      cases htarget
      exact reaches_of_resolve hresolve
  | entry directory name =>
      obtain ⟨-, above, hsteps, hhere, habove, hlimit, hwalk⟩ := resolve_eq_entry_iff.mp hresolve
      cases hnode : fs.nodeAt? (directory ++ [name]) with
      | none => simp [hnode] at htarget
      | some node =>
          cases node with
          | file content =>
              simp only [hnode] at htarget
              split at htarget <;> cases htarget
          | directory =>
              simp only [hnode, Except.ok.injEq, Prod.mk.injEq, and_true] at htarget
              subst htarget
              rw [Reaches, hsteps]
              refine walk_append_eq_ok.mpr ⟨directory, hwalk, walk_cons_eq_ok.mpr ⟨_, ?_, rfl⟩⟩
              exact (enter_eq_ok_iff hhere habove).mpr ⟨hlimit, hnode, rfl⟩

/-- What can be read is a file that the path names. -/
theorem read_eq_ok_iff {path : String} {content : ByteArray} :
    fs.read path = .ok content
      ↔ ∃ directory name, fs.resolve path = .ok (.entry directory name)
        ∧ fs.nodeAt? (directory ++ [name]) = some (.file content) ∧ isClosed path = false := by
  constructor
  · intro h
    obtain ⟨⟨location, node⟩, hfind, hread⟩ := Check.bind_eq_ok.mp h
    cases node with
    | directory => cases hread
    | file found =>
        cases hread
        obtain ⟨target, hresolve, htarget⟩ := Check.bind_eq_ok.mp hfind
        cases target with
        | directory reached => cases htarget
        | entry directory name =>
            refine ⟨directory, name, hresolve, ?_⟩
            cases hnode : fs.nodeAt? (directory ++ [name]) with
            | none => simp [hnode] at htarget
            | some node =>
                cases node with
                | directory => simp [hnode] at htarget
                | file content =>
                    simp only [hnode] at htarget
                    split at htarget
                    · cases htarget
                    · rename_i hclosed
                      cases htarget
                      exact ⟨rfl, by simpa using hclosed⟩
  · rintro ⟨directory, name, hresolve, hnode, hclosed⟩
    have hfind : fs.find path = .ok (directory ++ [name], .file content) := by
      refine Check.bind_eq_ok.mpr ⟨_, hresolve, ?_⟩
      simp only [hnode, hclosed, Bool.false_eq_true, if_false]
    exact Check.bind_eq_ok.mpr ⟨_, hfind, rfl⟩

/-! ## Below a directory -/

/-- The same path still leads to a directory. -/
lemma Reaches.mono (hstay : DirectoriesStay fs fs') (hcurrent : fs'.current = fs.current)
    {path : String} {location : Location} (h : fs.Reaches path location) :
    fs'.Reaches path location := by
  have hstart : fs'.startOf path = fs.startOf path := by rw [startOf, startOf, hcurrent]
  rw [Reaches, hstart]
  exact walk_mono hstay h

/-- The same path still names an entry. -/
lemma resolve_mono (hstay : DirectoriesStay fs fs') (hcurrent : fs'.current = fs.current)
    {path name : String} {directory : Location}
    (h : fs.resolve path = .ok (.entry directory name)) :
    fs'.resolve path = .ok (.entry directory name) := by
  obtain ⟨hpath, above, hsteps, hhere, habove, hlimit, hwalk⟩ := resolve_eq_entry_iff.mp h
  have hstart : fs'.startOf path = fs.startOf path := by rw [startOf, startOf, hcurrent]
  refine resolve_eq_entry_iff.mpr ⟨hpath, above, hsteps, hhere, habove, hlimit, ?_⟩
  rw [hstart]
  exact walk_mono hstay hwalk

/-- A file that stays where its path leads can still be read. -/
lemma read_mono (hstay : DirectoriesStay fs fs') (hcurrent : fs'.current = fs.current)
    {path : String} {content : ByteArray} (h : fs.read path = .ok content)
    (hnode : ∀ directory name, fs.resolve path = .ok (.entry directory name) →
      fs'.nodeAt? (directory ++ [name]) = fs.nodeAt? (directory ++ [name])) :
    fs'.read path = .ok content := by
  obtain ⟨directory, name, hresolve, hfile, hclosed⟩ := read_eq_ok_iff.mp h
  refine read_eq_ok_iff.mpr ⟨directory, name, resolve_mono hstay hcurrent hresolve, ?_, hclosed⟩
  rw [hnode directory name hresolve, hfile]

lemma startOf_join (base : String) {path : String} (h : isAbsolute path = false) :
    fs.startOf (join base path) = fs.startOf base := by
  rw [startOf, startOf, isAbsolute_join base h]

/-- A path below a directory, as long as it does not go up. -/
structure IsBelow (path : String) : Prop where
  relative : isAbsolute path = false
  noAbove : ".." ∉ steps path

instance (path : String) : Decidable (IsBelow path) :=
  decidable_of_iff (isAbsolute path = false ∧ ".." ∉ steps path)
    ⟨fun h => ⟨h.1, h.2⟩, fun h => ⟨h.relative, h.noAbove⟩⟩

/-- The way through a directory below. -/
lemma IsBelow.entry_slash {name path : String} (hname : IsEntryName name) (h : IsBelow path) :
    IsBelow (name ++ "/" ++ path) := by
  refine ⟨isAbsolute_entry_slash hname path, ?_⟩
  rw [steps_entry_slash hname, List.mem_cons, not_or]
  exact ⟨fun e => hname.notAbove e.symm, h.noAbove⟩

/-- Just above the end of a path. -/
lemma Reaches.exists_above {path name : String} {location : Location} {above : List String}
    (h : fs.Reaches path location) (hsteps : steps path = above ++ [name]) (hhere : name ≠ ".")
    (habove : name ≠ "..") :
    ∃ next, fs.walk (fs.startOf path) above = .ok next ∧ location = next ++ [name] := by
  rw [Reaches, hsteps] at h
  obtain ⟨next, hnext, hlast⟩ := walk_append_eq_ok.mp h
  obtain ⟨reached, hstep, hend⟩ := walk_cons_eq_ok.mp hlast
  cases hend
  obtain ⟨-, -, hlocation⟩ := (enter_eq_ok_iff hhere habove).mp hstep
  exact ⟨next, hnext, hlocation⟩

/-- A path below a directory names the location of its parts there. -/
theorem location_of_resolve_join {base path name : String} {location directory : Location}
    (hpath : IsBelow path) (hbase : fs.Reaches base location)
    (h : fs.resolve (join base path) = .ok (.entry directory name)) :
    directory ++ [name] = location ++ parts path := by
  obtain ⟨-, above, hsteps, hhere, habove, hlimit, hwalk⟩ := resolve_eq_entry_iff.mp h
  rw [steps_join base hpath.relative] at hsteps
  rw [startOf_join base hpath.relative] at hwalk
  rcases List.eq_nil_or_concat (steps path) with hnil | ⟨rest, last, hconcat⟩
  · rw [hnil, List.append_nil] at hsteps
    obtain ⟨next, hnext, rfl⟩ := hbase.exists_above hsteps hhere habove
    rw [hnext] at hwalk
    cases hwalk
    rw [← names_steps, hnil, names_nil, List.append_nil]
  · rw [List.concat_eq_append] at hconcat
    rw [hconcat, ← List.append_assoc] at hsteps
    obtain ⟨rfl, hlast⟩ := List.append_inj' hsteps rfl
    cases hlast
    obtain ⟨next, hnext, hrest⟩ := walk_append_eq_ok.mp hwalk
    have hsame : next = location := by
      rw [Reaches, hnext] at hbase
      exact Except.ok.inj hbase
    subst hsame
    have hdown := hpath.noAbove
    rw [hconcat, List.mem_append, not_or] at hdown
    obtain ⟨rfl, -⟩ := walk_eq_append hdown.1 hrest
    rw [← names_steps, hconcat, names_append, List.append_assoc]
    rw [names_cons hhere, names_nil]

/-- If something stands where a path below a directory leads, and the path can be followed in some
file system with that directory, then it can be followed here. -/
theorem resolve_join_of_node {base path name : String} {location directory : Location}
    (hwf : fs.WellFormed) (hpath : IsBelow path) (hcurrent : fs'.current = fs.current)
    (hbase : fs.Reaches base location) (hbase' : fs'.Reaches base location)
    (hnode : fs.nodeAt? (location ++ parts path) ≠ none)
    (h : fs'.resolve (join base path) = .ok (.entry directory name)) :
    fs.resolve (join base path) = .ok (.entry directory name) := by
  have hstart : fs'.startOf base = fs.startOf base := by rw [startOf, startOf, hcurrent]
  have hlocation := location_of_resolve_join hpath hbase' h
  obtain ⟨hpermitted, above, hsteps, hhere, habove, hlimit, hwalk⟩ := resolve_eq_entry_iff.mp h
  refine resolve_eq_entry_iff.mpr ⟨hpermitted, above, hsteps, hhere, habove, hlimit, ?_⟩
  rw [steps_join base hpath.relative] at hsteps
  rw [startOf_join base hpath.relative] at hwalk ⊢
  rcases List.eq_nil_or_concat (steps path) with hnil | ⟨rest, last, hconcat⟩
  · rw [hnil, List.append_nil] at hsteps
    obtain ⟨next, hnext, rfl⟩ := hbase.exists_above hsteps hhere habove
    rw [← names_steps, hnil, names_nil, List.append_nil] at hlocation
    rw [hnext, (List.append_inj' hlocation rfl).1]
  · rw [List.concat_eq_append] at hconcat
    rw [hconcat, ← List.append_assoc] at hsteps
    obtain ⟨rfl, hlast⟩ := List.append_inj' hsteps rfl
    cases hlast
    obtain ⟨next, hnext, hrest⟩ := walk_append_eq_ok.mp hwalk
    have hsame : next = location := by
      rw [Reaches, hnext] at hbase'
      exact Except.ok.inj hbase'
    subst hsame
    have hdown := hpath.noAbove
    rw [hconcat, List.mem_append, not_or] at hdown
    obtain ⟨rfl, hlimits⟩ := walk_eq_append hdown.1 hrest
    -- the directory that the last name is looked up in stands above the node
    rw [← hlocation] at hnode
    refine walk_append_eq_ok.mpr ⟨next, hbase, ?_⟩
    exact walk_to_directory hwf hdown.1 hlimits (hwf.parents _ _ hnode)

/-- What is read below a directory is the file at that location. -/
lemma node_of_read_join {base path : String} {location : Location} {content : ByteArray}
    (hpath : IsBelow path) (hbase : fs.Reaches base location)
    (h : fs.read (join base path) = .ok content) :
    fs.nodeAt? (location ++ parts path) = some (.file content) := by
  obtain ⟨directory, name, hresolve, hnode, -⟩ := read_eq_ok_iff.mp h
  rw [← location_of_resolve_join hpath hbase hresolve]
  exact hnode

/-- A file below a directory can be read if its path names an entry in some file system with that
directory. -/
theorem read_join_of_node {base path name : String} {location directory : Location}
    {content : ByteArray} (hwf : fs.WellFormed) (hpath : IsBelow path)
    (hcurrent : fs'.current = fs.current) (hbase : fs.Reaches base location)
    (hbase' : fs'.Reaches base location)
    (h : fs'.resolve (join base path) = .ok (.entry directory name))
    (hclosed : isClosed (join base path) = false)
    (hnode : fs.nodeAt? (location ++ parts path) = some (.file content)) :
    fs.read (join base path) = .ok content := by
  have hlocation := location_of_resolve_join hpath hbase' h
  refine read_eq_ok_iff.mpr ⟨directory, name, ?_, by rw [hlocation, hnode], hclosed⟩
  exact resolve_join_of_node hwf hpath hcurrent hbase hbase' (by simp [hnode]) h

end ClassBridge.FileSystem
