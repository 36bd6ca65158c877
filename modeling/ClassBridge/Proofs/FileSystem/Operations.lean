import ClassBridge.Proofs.FileSystem.Entries
import ClassBridge.Proofs.FileSystem.Walk

/-!
# What operations do

**Changes of one location.**  A file system stays well-formed when a node is put where no directory
is (`WellFormed.put`) and when a tree is taken away that relative paths do not start in
(`WellFormed.removeTree`).

**Operations.**  Creating directories, with those above them or without, only ever adds directories
where nothing was (`Grows`).  Writing puts a file at one location (`Puts`, `write_spec`) and
renaming takes one from a location to another (`Moves`, `rename_spec`); everything else follows
from that.
-/

namespace ClassBridge.FileSystem

open ClassBridge.Path

variable {fs fs' fs'' : FileSystem}

/-! ## One location -/

lemma current_put (fs : FileSystem) (location : Location) (node : Node) :
    (fs.put location node).current = fs.current := rfl

lemma current_removeTree (fs : FileSystem) (location : Location) :
    (fs.removeTree location).current = fs.current := rfl

lemma nodeAt?_put_entry (fs : FileSystem) (directory : Location) (name : String) (node : Node)
    (other : Location) :
    (fs.put (directory ++ [name]) node).nodeAt? other
      = if other = directory ++ [name] then some node else fs.nodeAt? other :=
  nodeAt?_put fs _ other node (by simp)

/-- What is left when a tree is taken away. -/
lemma nodeAt?_removeTree_of_ne_nil (fs : FileSystem) {location : Location} (h : location ≠ [])
    (other : Location) :
    (fs.removeTree location).nodeAt? other
      = if location <+: other then none else fs.nodeAt? other := by
  by_cases hother : other = []
  · subst hother
    rw [if_neg fun hpre => h (List.prefix_nil.mp hpre)]
    rfl
  · exact nodeAt?_removeTree fs location other hother

lemma wellFormed_empty : ({} : FileSystem).WellFormed := by
  have hroot : ∀ location : Location,
      ({} : FileSystem).nodeAt? location ≠ none → location = [] := by
    intro location hnode
    by_contra hne
    rw [nodeAt?, if_neg hne] at hnode
    exact hnode rfl
  constructor
  · intro location name hnode
    have hnil := hroot _ hnode
    simp at hnil
  · intro location hnode name hname
    rw [hroot location hnode] at hname
    cases hname
  · rfl

/-- Nothing stands below anything but a directory. -/
lemma WellFormed.nodeAt?_below (h : fs.WellFormed) {location below : Location}
    (hnode : fs.nodeAt? location ≠ some .directory) (hbelow : below ≠ []) :
    fs.nodeAt? (location ++ below) = none := by
  by_contra hsome
  exact hnode (h.above hbelow hsome)

lemma WellFormed.put (h : fs.WellFormed) {directory : Location} {name : String} {node : Node}
    (hdirectory : fs.nodeAt? directory = some .directory) (hname : IsEntryName name)
    (hnode : fs.nodeAt? (directory ++ [name]) ≠ some .directory) :
    (fs.put (directory ++ [name]) node).WellFormed := by
  constructor
  · intro location last hlast
    rw [nodeAt?_put_entry] at hlast
    have hparent : fs.nodeAt? location = some .directory := by
      split at hlast
      · rename_i heq
        rw [(List.append_inj' heq rfl).1]
        exact hdirectory
      · exact h.parents location last hlast
    rw [nodeAt?_put_entry, if_neg]
    · exact hparent
    · rintro rfl
      exact hnode hparent
  · intro location hlocation part hpart
    rw [nodeAt?_put_entry] at hlocation
    split at hlocation
    · rename_i heq
      rw [heq, List.mem_append, List.mem_singleton] at hpart
      rcases hpart with hpart | rfl
      · exact h.names directory (by simp [hdirectory]) part hpart
      · exact hname
    · exact h.names location hlocation part hpart
  · rw [current_put, nodeAt?_put_entry, if_neg]
    · exact h.current
    · intro heq
      rw [← heq] at hnode
      exact hnode h.current

/-- One directory with one thing in it. -/
lemma wellFormed_entry {directory name : String} (hdirectory : IsEntryName directory)
    (hname : IsEntryName name) (node : Node) :
    ((({} : FileSystem).put [directory] .directory).put [directory, name] node).WellFormed := by
  have hout : (({} : FileSystem).put ([] ++ [directory]) .directory).WellFormed :=
    wellFormed_empty.put rfl hdirectory (by simp [nodeAt?])
  rw [show [directory, name] = [directory] ++ [name] from rfl,
    show [directory] = [] ++ [directory] from rfl]
  refine hout.put ?_ hname ?_
  · rw [nodeAt?_put_entry, if_pos rfl]
  · rw [nodeAt?_put_entry, if_neg (by simp)]
    simp [nodeAt?]

lemma WellFormed.removeTree (h : fs.WellFormed) {location : Location} (hne : location ≠ [])
    (hcurrent : ¬ location <+: fs.current) : (fs.removeTree location).WellFormed := by
  constructor
  · intro above name hnode
    rw [nodeAt?_removeTree_of_ne_nil fs hne] at hnode ⊢
    split at hnode
    · exact absurd rfl hnode
    · rename_i hkept
      rw [if_neg fun hpre => hkept (hpre.trans (List.prefix_append above [name]))]
      exact h.parents above name hnode
  · intro other hother
    rw [nodeAt?_removeTree_of_ne_nil fs hne] at hother
    split at hother
    · exact absurd rfl hother
    · exact h.names other hother
  · rw [current_removeTree, nodeAt?_removeTree_of_ne_nil fs hne, if_neg hcurrent]
    exact h.current

/-- Every path starts in a directory. -/
lemma nodeAt?_startOf (hwf : fs.WellFormed) (path : String) :
    fs.nodeAt? (fs.startOf path) = some .directory := by
  unfold startOf
  split
  · rfl
  · exact hwf.current

/-- An entry stands in a directory, under a name that paths can spell. -/
lemma entry_of_resolve (hwf : fs.WellFormed) {path name : String} {directory : Location}
    (h : fs.resolve path = .ok (.entry directory name)) :
    fs.nodeAt? directory = some .directory ∧ IsEntryName name := by
  obtain ⟨-, above, hsteps, hhere, habove, -, hwalk⟩ := resolve_eq_entry_iff.mp h
  have hmem : name ∈ steps path := by simp [hsteps]
  obtain ⟨hnonempty, hslash⟩ := mem_steps hmem
  exact ⟨isDirectory_of_walk hwf (nodeAt?_startOf hwf path) hwalk, hnonempty, hslash, hhere, habove⟩

/-! ## Creating directories -/

/-- Nothing changed but that there may be more directories, where nothing was. -/
structure Grows (fs fs' : FileSystem) : Prop where
  current : fs'.current = fs.current
  nodes : ∀ location, fs'.nodeAt? location = fs.nodeAt? location
    ∨ (fs.nodeAt? location = none ∧ fs'.nodeAt? location = some .directory)
  wellFormed : fs.WellFormed → fs'.WellFormed

lemma Grows.refl (fs : FileSystem) : Grows fs fs := ⟨rfl, fun _ => Or.inl rfl, id⟩

lemma Grows.trans (h : Grows fs fs') (h' : Grows fs' fs'') : Grows fs fs'' := by
  refine ⟨h'.current.trans h.current, fun location => ?_,
    fun hwf => h'.wellFormed (h.wellFormed hwf)⟩
  rcases h.nodes location with heq | ⟨hnone, hdirectory⟩
  · rcases h'.nodes location with heq' | ⟨hnone', hdirectory'⟩
    · exact Or.inl (heq'.trans heq)
    · exact Or.inr ⟨heq ▸ hnone', hdirectory'⟩
  · rcases h'.nodes location with heq' | ⟨hnone', -⟩
    · exact Or.inr ⟨hnone, heq'.trans hdirectory⟩
    · rw [hdirectory] at hnone'
      cases hnone'

lemma Grows.nodeAt?_eq (h : Grows fs fs') {location : Location}
    (hnode : fs.nodeAt? location ≠ none) : fs'.nodeAt? location = fs.nodeAt? location := by
  rcases h.nodes location with heq | ⟨hnone, -⟩
  · exact heq
  · exact absurd hnone hnode

/-- No files come or go. -/
lemma Grows.file_iff (h : Grows fs fs') {location : Location} {content : ByteArray} :
    fs'.nodeAt? location = some (.file content) ↔ fs.nodeAt? location = some (.file content) := by
  rcases h.nodes location with heq | ⟨hnone, hdirectory⟩
  · rw [heq]
  · rw [hnone, hdirectory]
    simp

lemma Grows.directoriesStay (h : Grows fs fs') : DirectoriesStay fs fs' := by
  intro location hdirectory
  rw [h.nodeAt?_eq (by simp [hdirectory])]
  exact hdirectory

lemma grows_createDirectory {path : String} (h : fs.createDirectory path = .ok fs') :
    Grows fs fs' := by
  obtain ⟨target, hresolve, htarget⟩ := Check.bind_eq_ok.mp h
  cases target with
  | directory location => cases htarget
  | entry directory name =>
      cases hnode : fs.nodeAt? (directory ++ [name]) with
      | some node => simp [hnode] at htarget
      | none =>
          simp only [hnode, Except.ok.injEq] at htarget
          subst htarget
          refine ⟨rfl, fun location => ?_, fun hwf => ?_⟩
          · rw [nodeAt?_put_entry]
            split
            · rename_i heq
              exact Or.inr ⟨heq ▸ hnode, rfl⟩
            · exact Or.inl rfl
          · obtain ⟨hdirectory, hname⟩ := entry_of_resolve hwf hresolve
            exact hwf.put hdirectory hname (by simp [hnode])

lemma grows_ensureDirectory {path : String} (h : fs.ensureDirectory path = .ok fs') :
    Grows fs fs' := by
  unfold ensureDirectory at h
  split at h
  · rename_i hcreate
    cases h
    exact grows_createDirectory hcreate
  · cases h
  · split at h
    · cases h
      exact Grows.refl fs
    · cases h

/-- The directories above are created first; what was created stays if a later one fails. -/
lemma grows_createFromParts (absolute : Bool) (parts : List String) (fs : FileSystem) :
    Grows fs (createFromParts absolute parts fs).2 := by
  induction parts generalizing fs with
  | nil => exact Grows.refl fs
  | cons part above ih =>
      rw [createFromParts]
      split
      · rename_i hensure
        exact grows_ensureDirectory hensure
      · have habove := ih fs
        split
        · rename_i habove'
          rwa [habove'] at habove
        · rename_i habove'
          rw [habove'] at habove
          split
          · rename_i hensure
            exact habove.trans (grows_ensureDirectory hensure)
          · exact habove
      · exact Grows.refl fs

/-- Whether it succeeds or not, only directories are added. -/
theorem grows_createDirectories (path : String) (fs : FileSystem) :
    Grows fs (createDirectories path fs).2 := by
  rw [createDirectories]
  split
  · exact Grows.refl fs
  · split
    · rename_i hensure
      exact grows_ensureDirectory hensure
    · have habove := grows_createFromParts (isAbsolute path) (parts path).dropLast.reverse fs
      split
      · rename_i habove'
        rwa [habove'] at habove
      · rename_i habove'
        rw [habove'] at habove
        split
        · rename_i hensure
          exact habove.trans (grows_ensureDirectory hensure)
        · exact habove
    · exact Grows.refl fs

lemma grows_of_createDirectories {path : String} {error : Option FileError}
    (h : createDirectories path fs = (error, fs')) : Grows fs fs' := by
  have hgrows := grows_createDirectories path fs
  rwa [h] at hgrows

/-- A path that leads to a directory led there before, unless it goes up from a directory that was
added. -/
lemma Grows.reaches (h : Grows fs fs') (hwf : fs.WellFormed) {path : String} {location : Location}
    (hup : ".." ∈ steps path → ∃ there, fs.Reaches path there)
    (hreaches : fs'.Reaches path location) (hnode : fs.nodeAt? location = some .directory) :
    fs.Reaches path location := by
  by_cases habove : ".." ∈ steps path
  · obtain ⟨there, hthere⟩ := hup habove
    have hsame := hthere.mono h.directoriesStay h.current
    rw [Reaches, hreaches] at hsame
    rwa [Except.ok.inj hsame]
  · have hstart : fs'.startOf path = fs.startOf path := by rw [startOf, startOf, h.current]
    rw [Reaches, hstart] at hreaches
    obtain ⟨rfl, hlimits⟩ := walk_eq_append habove hreaches
    exact walk_to_directory hwf habove hlimits hnode

/-- A file below a directory could be read before that directory was there if it was there. -/
theorem Grows.read_join_iff (h : Grows fs fs') (hwf : fs.WellFormed) {base path name : String}
    {location directory : Location} {content : ByteArray} (hpath : IsBelow path)
    (hup : ".." ∈ steps base → ∃ there, fs.Reaches base there)
    (hbase : fs'.Reaches base location) (hcurrent : fs''.current = fs.current)
    (hbase' : fs''.Reaches base location)
    (hresolve : fs''.resolve (join base path) = .ok (.entry directory name))
    (hclosed : isClosed (join base path) = false) :
    fs.read (join base path) = .ok content
      ↔ fs.nodeAt? (location ++ parts path) = some (.file content) := by
  constructor
  · intro hread
    have hread' : fs'.read (join base path) = .ok content := by
      refine read_mono h.directoriesStay h.current hread fun directory name hentry => ?_
      obtain ⟨found, last, hfound, hnode, -⟩ := read_eq_ok_iff.mp hread
      rw [hentry] at hfound
      cases hfound
      exact h.nodeAt?_eq (by simp [hnode])
    exact h.file_iff.mp (node_of_read_join hpath hbase hread')
  · intro hnode
    have hparts : parts path ≠ [] := by
      intro hnil
      have hdirectory := isDirectory_of_walk (h.wellFormed hwf)
        (nodeAt?_startOf (h.wellFormed hwf) base) hbase
      rw [hnil, List.append_nil, ← h.file_iff, hdirectory] at hnode
      cases hnode
    have hdirectory := hwf.above hparts (by rw [hnode]; exact Option.some_ne_none _)
    have hthere := h.reaches hwf hup hbase hdirectory
    exact read_join_of_node hwf hpath hcurrent hthere hbase' hresolve hclosed hnode

/-! ## Writing -/

/-- A file was put at a location. -/
structure Puts (fs fs' : FileSystem) (target : Location) (content : ByteArray) : Prop where
  current : fs'.current = fs.current
  wellFormed : fs'.WellFormed
  stay : DirectoriesStay fs fs'
  nodes : ∀ location, fs'.nodeAt? location
    = if location = target then some (.file content) else fs.nodeAt? location

lemma directoriesStay_put {directory : Location} {name : String} (node : Node)
    (hnode : fs.nodeAt? (directory ++ [name]) ≠ some .directory) :
    DirectoriesStay fs (fs.put (directory ++ [name]) node) := by
  intro location hdirectory
  rw [nodeAt?_put_entry, if_neg]
  · exact hdirectory
  · rintro rfl
    exact hnode hdirectory

/-- Writing puts a file at one location. -/
theorem write_spec (hwf : fs.WellFormed) {path : String} {content : ByteArray}
    (h : fs.write path content = .ok fs') :
    ∃ directory name, fs.resolve path = .ok (.entry directory name) ∧ isClosed path = false
      ∧ Puts fs fs' (directory ++ [name]) content := by
  unfold write at h
  split at h
  · obtain ⟨target, -, htarget⟩ := Check.bind_eq_ok.mp h
    cases htarget
  · rename_i hclosed
    obtain ⟨target, hresolve, htarget⟩ := Check.bind_eq_ok.mp h
    cases target with
    | directory location => cases htarget
    | entry directory name =>
        simp only at htarget
        split at htarget
        · cases htarget
        · rename_i hnode
          cases htarget
          obtain ⟨hdirectory, hname⟩ := entry_of_resolve hwf hresolve
          refine ⟨directory, name, hresolve, by simpa using hclosed, rfl, ?_, ?_, ?_⟩
          · exact hwf.put hdirectory hname hnode
          · exact directoriesStay_put _ hnode
          · exact nodeAt?_put_entry fs directory name _

/-! ## Renaming -/

/-- A file went from one location to another. -/
structure Moves (fs fs' : FileSystem) (source target : Location) (content : ByteArray) : Prop where
  current : fs'.current = fs.current
  wellFormed : fs'.WellFormed
  stay : DirectoriesStay fs fs'
  nodes : ∀ location, fs'.nodeAt? location
    = if location = target then some (.file content)
      else if location = source then none
      else fs.nodeAt? location

/-- Nothing that a directory is needed for stands at a file or below it. -/
lemma WellFormed.not_isPrefix_directory (hwf : fs.WellFormed) {location directory : Location}
    (hnode : fs.nodeAt? location ≠ some .directory)
    (hdirectory : fs.nodeAt? directory = some .directory) : ¬ location <+: directory := by
  rintro ⟨below, rfl⟩
  by_cases hbelow : below = []
  · rw [hbelow, List.append_nil] at hdirectory
    exact hnode hdirectory
  · rw [hwf.nodeAt?_below hnode hbelow] at hdirectory
    cases hdirectory

/-- Taking a file away changes one location. -/
lemma nodeAt?_removeTree_file (hwf : fs.WellFormed) {location : Location} {content : ByteArray}
    (hnode : fs.nodeAt? location = some (.file content)) (other : Location) :
    (fs.removeTree location).nodeAt? other
      = if other = location then none else fs.nodeAt? other := by
  have hfile : fs.nodeAt? location ≠ some .directory := by simp [hnode]
  have hne : location ≠ [] := by
    rintro rfl
    exact hfile rfl
  rw [nodeAt?_removeTree_of_ne_nil fs hne]
  by_cases hother : other = location
  · rw [if_pos hother, if_pos (hother ▸ List.prefix_rfl)]
  · rw [if_neg hother]
    split
    · rename_i hpre
      obtain ⟨below, rfl⟩ := hpre
      exact (hwf.nodeAt?_below hfile fun e => hother (by rw [e, List.append_nil])).symm
    · rfl

lemma moves_put_removeTree (hwf : fs.WellFormed) {source directory : Location} {name : String}
    {content : ByteArray} (hsource : fs.nodeAt? source = some (.file content))
    (hdirectory : fs.nodeAt? directory = some .directory) (hname : IsEntryName name)
    (htarget : fs.nodeAt? (directory ++ [name]) ≠ some .directory) :
    Moves fs ((fs.removeTree source).put (directory ++ [name]) (.file content)) source
      (directory ++ [name]) content := by
  have hfile : fs.nodeAt? source ≠ some .directory := by simp [hsource]
  have hne : source ≠ [] := by
    rintro rfl
    exact hfile rfl
  have hremoved := nodeAt?_removeTree_file hwf hsource
  have hstay : DirectoriesStay fs (fs.removeTree source) := by
    intro location hdir
    rw [hremoved, if_neg]
    · exact hdir
    · rintro rfl
      exact hfile hdir
  have hwf' : (fs.removeTree source).WellFormed :=
    hwf.removeTree hne (hwf.not_isPrefix_directory hfile hwf.current)
  have htarget' : (fs.removeTree source).nodeAt? (directory ++ [name]) ≠ some .directory := by
    rw [hremoved]
    split
    · exact (Option.some_ne_none _).symm
    · exact htarget
  refine ⟨rfl, hwf'.put (hstay _ hdirectory) hname htarget', ?_, ?_⟩
  · intro location hdir
    exact directoriesStay_put _ htarget' location (hstay location hdir)
  · intro location
    rw [nodeAt?_put_entry, hremoved]

/-- Renaming takes a file from one location to another. -/
theorem rename_spec (hwf : fs.WellFormed) {source destination : String}
    (h : fs.rename source destination = .ok fs') :
    ∃ directory name directory' name' content,
      fs.resolve source = .ok (.entry directory name)
      ∧ fs.resolve destination = .ok (.entry directory' name')
      ∧ (isClosed source = false ∧ isClosed destination = false)
      ∧ fs.nodeAt? (directory ++ [name]) = some (.file content)
      ∧ Moves fs fs' (directory ++ [name]) (directory' ++ [name']) content := by
  obtain ⟨source', hsource, h⟩ := Check.bind_eq_ok.mp h
  obtain ⟨destination', hdestination, h⟩ := Check.bind_eq_ok.mp h
  cases source' with
  | directory location => cases h
  | entry directory name =>
      cases destination' with
      | directory location => cases h
      | entry directory' name' =>
          simp only at h
          split at h
          · cases h
          · cases h
          · rename_i content hold
            split at h
            · cases h
            · rename_i hclosed
              split at h
              · cases h
              · rename_i hnew
                cases h
                rw [Bool.or_eq_true, not_or, Bool.not_eq_true, Bool.not_eq_true] at hclosed
                obtain ⟨hdirectory', hname'⟩ := entry_of_resolve hwf hdestination
                exact ⟨directory, name, directory', name', content, hsource, hdestination,
                  hclosed, hold, moves_put_removeTree hwf hold hdirectory' hname' hnew⟩

end ClassBridge.FileSystem
