import ClassBridge.Proofs.FileSystem.Operations
import ClassBridge.Proofs.Staging.Naming
import Mathlib.Data.List.Nodup

/-!
# While a staging directory is open

`Opened` says where a staging directory is: under a free name in the output directory.  As long as
it is there everything outside of it may stay as it was (`Contained`), or files may be delivered
(`Progress`).  Then some files are in place and some still wait in the staging directory, each with
the content that it was given, and outside of the staging directory nothing changed but the files in
place and directories that were added.

A session begins without files (`createNamed_spec`), and staging a file adds one that waits
(`Progress.stage`).
-/

namespace ClassBridge.Staging

open ClassBridge.Path FileSystem

/-- A file to deliver: its path below the output directory and its content. -/
abbrev Delivery : Type := String × String

/-- A staging directory is in its output directory, under a name that was free. -/
structure Opened (s : Staging) (base : FileSystem) (output : String) (out : Location) : Prop where
  wellFormed : base.WellFormed
  output : base.Reaches output out
  directory : ∃ root name, base.Reaches root out ∧ IsEntryName name
    ∧ s.directory = join root name ∧ s.location = out ++ [name]
  free : base.nodeAt? s.location = none

/-- At a location no file came or went, and a directory stayed one. -/
structure Untouched (before after : FileSystem) (location : Location) : Prop where
  file : ∀ content, after.nodeAt? location = some (.file content)
    ↔ before.nodeAt? location = some (.file content)
  directory : before.nodeAt? location = some .directory →
    after.nodeAt? location = some .directory

/-- A path that leads to a place outside of the staging directory. -/
structure Placeable (s : Staging) (out : Location) (path : String) : Prop where
  below : IsBelow path
  outside : ¬ s.location <+: out ++ parts path

/-- What holds while a staging directory is open, whatever is done in it. -/
structure Underway (s : Staging) (base : FileSystem) (output : String) (out : Location)
    (fs : FileSystem) : Prop where
  opened : Opened s base output out
  wellFormed : fs.WellFormed
  current : fs.current = base.current
  stay : DirectoriesStay base fs

/-- Outside of the staging directory everything is as it was. -/
structure Contained (s : Staging) (base : FileSystem) (output : String) (out : Location)
    (fs : FileSystem) : Prop extends Underway s base output out fs where
  outside : ∀ location, ¬ s.location <+: location → fs.nodeAt? location = base.nodeAt? location

/-- What holds while files are delivered. -/
structure Progress (s : Staging) (base : FileSystem) (output : String) (out : Location)
    (placed waiting : List Delivery) (fs : FileSystem) : Prop where
  opened : Opened s base output out
  wellFormed : fs.WellFormed
  current : fs.current = base.current
  stay : DirectoriesStay base fs
  placeable : ∀ file ∈ placed ++ waiting, Placeable s out file.1
  distinct : ((placed ++ waiting).map fun file => parts file.1).Nodup
  copies : ∀ file ∈ waiting, fs.read (s.pathOf file.1) = .ok file.2.toUTF8
  reads : ∀ file ∈ placed, fs.read (join output file.1) = .ok file.2.toUTF8
  untouched : ∀ location, ¬ s.location <+: location →
    (∀ file ∈ placed, location ≠ out ++ parts file.1) → Untouched base fs location

variable {s : Staging} {base before after fs fs' : FileSystem} {output : String} {out : Location}
  {placed waiting : List Delivery} {location : Location}

/-- A file goes to another place than those before it and those after it. -/
lemma parts_ne_of_nodup {first rest : List Delivery} {file : Delivery}
    (h : ((first ++ file :: rest).map fun file => parts file.1).Nodup) :
    ∀ other ∈ first ++ rest, parts other.1 ≠ parts file.1 := by
  intro other hother heq
  rw [List.map_append, List.map_cons, List.nodup_middle, ← List.map_append, List.nodup_cons] at h
  exact h.1 (List.mem_map.mpr ⟨other, hother, heq⟩)

lemma placeable_of_avoids {naming : Naming} {path : String} (hpath : IsBelow path)
    (havoids : naming.Avoids path) (hlocation : s.location = out ++ [naming base out]) :
    Placeable s out path := by
  refine ⟨hpath, ?_⟩
  rw [hlocation, List.prefix_append_right_inj]
  rintro ⟨rest, heq⟩
  apply havoids base out
  rw [← heq]
  rfl

/-! ## Untouched locations -/

lemma Untouched.of_eq (h : after.nodeAt? location = before.nodeAt? location) :
    Untouched before after location := ⟨fun _ => by rw [h], fun hdir => by rw [h, hdir]⟩

lemma Untouched.trans {middle : FileSystem} (h : Untouched before middle location)
    (h' : Untouched middle after location) : Untouched before after location :=
  ⟨fun content => (h'.file content).trans (h.file content),
    fun hdir => h'.directory (h.directory hdir)⟩

lemma Untouched.of_grows (h : Grows before after) (location : Location) :
    Untouched before after location :=
  ⟨fun _ => h.file_iff, fun hdir => h.directoriesStay location hdir⟩

/-! ## The staging directory -/

namespace Opened

lemma location_ne_nil (h : Opened s base output out) : s.location ≠ [] := by
  obtain ⟨root, name, -, -, -, hlocation⟩ := h.directory
  simp [hlocation]

/-- Nothing stood where the staging directory is. -/
lemma nodeAt?_eq_none (h : Opened s base output out) (hpre : s.location <+: location) :
    base.nodeAt? location = none := by
  obtain ⟨below, rfl⟩ := hpre
  by_cases hbelow : below = []
  · rw [hbelow, List.append_nil]
    exact h.free
  · exact h.wellFormed.nodeAt?_below (by simp [h.free]) hbelow

lemma not_isPrefix (h : Opened s base output out)
    (hdirectory : base.nodeAt? location = some .directory) : ¬ s.location <+: location := by
  intro hpre
  rw [h.nodeAt?_eq_none hpre] at hdirectory
  cases hdirectory

/-- A staged copy lies below the output directory, behind the name of the staging directory. -/
lemma exists_pathOf (h : Opened s base output out) :
    ∃ root name, base.Reaches root out ∧ IsEntryName name ∧ s.location = out ++ [name]
      ∧ ∀ path, IsBelow path → s.pathOf path = join root (name ++ "/" ++ path) := by
  obtain ⟨root, name, hroot, hname, hdirectory, hlocation⟩ := h.directory
  refine ⟨root, name, hroot, hname, hlocation, fun path hpath => ?_⟩
  rw [Staging.pathOf, hdirectory, join_join root hname hpath.relative]

/-- Where the staged copy of a file is. -/
lemma location_of_resolve (h : Opened s base output out) (hstay : DirectoriesStay base fs)
    (hcurrent : fs.current = base.current) {path name : String} {directory : Location}
    (hpath : IsBelow path) (hresolve : fs.resolve (s.pathOf path) = .ok (.entry directory name)) :
    directory ++ [name] = s.location ++ parts path := by
  obtain ⟨root, staging, hroot, hstaging, hlocation, hjoin⟩ := h.exists_pathOf
  rw [hjoin path hpath] at hresolve
  rw [location_of_resolve_join (hpath.entry_slash hstaging) (hroot.mono hstay hcurrent) hresolve,
    parts_entry_slash hstaging, hlocation, List.append_assoc]
  rfl

end Opened

namespace Underway

lemma reaches (h : Underway s base output out fs) : fs.Reaches output out :=
  h.opened.output.mono h.stay h.current

/-- Directories may be added at any time. -/
lemma grow (h : Underway s base output out fs) (hgrows : Grows fs fs') :
    Underway s base output out fs' where
  opened := h.opened
  wellFormed := hgrows.wellFormed h.wellFormed
  current := hgrows.current.trans h.current
  stay location hdirectory := hgrows.directoriesStay location (h.stay location hdirectory)

/-- A file that can be moved can be read where it was staged, now and before. -/
lemma read_copy {grown : FileSystem} (h : Underway s base output out fs)
    (hgrown : Underway s base output out grown) {path : String} {content : ByteArray}
    (hpath : IsBelow path)
    (hrename : grown.rename (s.pathOf path) (join output path) = .ok fs')
    (hnode : fs.nodeAt? (s.location ++ parts path) = some (.file content)) :
    fs.read (s.pathOf path) = .ok content := by
  obtain ⟨directory, name, -, -, -, hsource, -, hclosed, -, -⟩ :=
    rename_spec hgrown.wellFormed hrename
  obtain ⟨root, staging, hroot, hstaging, hlocation, hjoin⟩ := h.opened.exists_pathOf
  have hinner := hpath.entry_slash hstaging
  rw [hjoin path hpath] at hsource hclosed ⊢
  have hparts : out ++ parts (staging ++ "/" ++ path) = s.location ++ parts path := by
    rw [parts_entry_slash hstaging, hlocation, List.append_assoc]
    rfl
  exact read_join_of_node h.wellFormed hinner (hgrown.current.trans h.current.symm)
    (hroot.mono h.stay h.current) (hroot.mono hgrown.stay hgrown.current) hsource hclosed.1
    (hparts ▸ hnode)

/-- A file that can be moved to where it stands already can be read there. -/
lemma read_place {grown : FileSystem} (h : Underway s base output out fs)
    (hgrown : Underway s base output out grown) {path : String} {content : ByteArray}
    (hpath : IsBelow path)
    (hrename : grown.rename (s.pathOf path) (join output path) = .ok fs')
    (hnode : fs.nodeAt? (out ++ parts path) = some (.file content)) :
    fs.read (join output path) = .ok content := by
  obtain ⟨-, -, directory, name, -, -, hdestination, hclosed, -⟩ :=
    rename_spec hgrown.wellFormed hrename
  exact read_join_of_node h.wellFormed hpath (hgrown.current.trans h.current.symm) h.reaches
    hgrown.reaches hdestination hclosed.2 hnode

end Underway

/-! ## Files of a session -/

namespace Progress

lemma underway (h : Progress s base output out placed waiting fs) :
    Underway s base output out fs := ⟨h.opened, h.wellFormed, h.current, h.stay⟩

lemma reaches (h : Progress s base output out placed waiting fs) : fs.Reaches output out :=
  h.underway.reaches

lemma placeable_of_placed (h : Progress s base output out placed waiting fs) {file : Delivery}
    (hfile : file ∈ placed) : Placeable s out file.1 :=
  h.placeable file (List.mem_append_left _ hfile)

lemma placeable_of_waiting (h : Progress s base output out placed waiting fs) {file : Delivery}
    (hfile : file ∈ waiting) : Placeable s out file.1 :=
  h.placeable file (List.mem_append_right _ hfile)

/-- A file in place. -/
lemma node_of_placed (h : Progress s base output out placed waiting fs) {file : Delivery}
    (hfile : file ∈ placed) :
    fs.nodeAt? (out ++ parts file.1) = some (.file file.2.toUTF8) :=
  node_of_read_join (h.placeable_of_placed hfile).below h.reaches (h.reads file hfile)

/-- A file that waits. -/
lemma node_of_waiting (h : Progress s base output out placed waiting fs) {file : Delivery}
    (hfile : file ∈ waiting) :
    fs.nodeAt? (s.location ++ parts file.1) = some (.file file.2.toUTF8) := by
  obtain ⟨directory, name, hresolve, hnode, -⟩ := read_eq_ok_iff.mp (h.copies file hfile)
  rw [← h.opened.location_of_resolve h.stay h.current (h.placeable_of_waiting hfile).below hresolve]
  exact hnode

/-- A file in place can be read as long as nothing happens there. -/
lemma read_of_stay (h : Progress s base output out placed waiting fs) {file : Delivery}
    (hfile : file ∈ placed) (hstay : DirectoriesStay fs fs') (hcurrent : fs'.current = fs.current)
    (hnode : fs'.nodeAt? (out ++ parts file.1) = fs.nodeAt? (out ++ parts file.1)) :
    fs'.read (join output file.1) = .ok file.2.toUTF8 := by
  refine read_mono hstay hcurrent (h.reads file hfile) fun directory name hresolve => ?_
  rw [location_of_resolve_join (h.placeable_of_placed hfile).below h.reaches hresolve, hnode]

/-- A copy can be read as long as nothing happens there. -/
lemma copy_of_stay (h : Progress s base output out placed waiting fs) {file : Delivery}
    (hfile : file ∈ waiting) (hstay : DirectoriesStay fs fs') (hcurrent : fs'.current = fs.current)
    (hnode : fs'.nodeAt? (s.location ++ parts file.1)
      = fs.nodeAt? (s.location ++ parts file.1)) :
    fs'.read (s.pathOf file.1) = .ok file.2.toUTF8 := by
  refine read_mono hstay hcurrent (h.copies file hfile) fun directory name hresolve => ?_
  rw [h.opened.location_of_resolve h.stay h.current (h.placeable_of_waiting hfile).below hresolve,
    hnode]

/-- Directories may be added at any time. -/
lemma grow (h : Progress s base output out placed waiting fs) (hgrows : Grows fs fs') :
    Progress s base output out placed waiting fs' where
  opened := h.opened
  wellFormed := hgrows.wellFormed h.wellFormed
  current := hgrows.current.trans h.current
  stay location hdirectory := hgrows.directoriesStay location (h.stay location hdirectory)
  placeable := h.placeable
  distinct := h.distinct
  copies file hfile := h.copy_of_stay hfile hgrows.directoriesStay hgrows.current
    (hgrows.nodeAt?_eq (by simp [h.node_of_waiting hfile]))
  reads file hfile := h.read_of_stay hfile hgrows.directoriesStay hgrows.current
    (hgrows.nodeAt?_eq (by simp [h.node_of_placed hfile]))
  untouched location houtside hplaced :=
    (h.untouched location houtside hplaced).trans (Untouched.of_grows hgrows location)

end Progress

/-- What staging a file does if it ends well. -/
lemma exists_of_stage {s' : Staging} {file content : String}
    (h : s.stage file content fs = .ok s' fs') :
    ∃ created, fs.createDirectories (parentPath (s.pathOf file)) = (none, created)
      ∧ created.write (s.pathOf file) content.toUTF8 = .ok fs' := by
  unfold Staging.stage at h
  split at h
  · cases h
  · rename_i created hcreate
    split at h
    · cases h
    · rename_i written hwrite
      cases h
      exact ⟨created, hcreate, hwrite⟩

/-- What changes in a staging directory that is open is the list of its files. -/
lemma eq_of_stage {staged : List String} {s' : Staging} {file content : String}
    (h : Staging.stage { s with staged } file content fs = .ok s' fs') :
    s' = { s with staged := staged ++ [file] } := by
  unfold Staging.stage at h
  split at h
  · cases h
  · split at h
    · cases h
    · cases h
      rfl

/-- Staging a file adds its copy. -/
theorem Progress.stage (h : Progress s base output out [] waiting fs) {staged : List String}
    {s' : Staging} (file : Delivery) (hfile : Placeable s out file.1)
    (hnew : ∀ other ∈ waiting, parts other.1 ≠ parts file.1)
    (hstage : Staging.stage { s with staged } file.1 file.2 fs = .ok s' fs') :
    Progress s base output out [] (waiting ++ [file]) fs' := by
  obtain ⟨middle, hcreate, hwrite⟩ := exists_of_stage hstage
  have hgrown := h.grow (grows_of_createDirectories hcreate)
  obtain ⟨directory, name, hresolve, hclosed, hputs⟩ := write_spec hgrown.wellFormed hwrite
  have hlocation : directory ++ [name] = s.location ++ parts file.1 :=
    h.opened.location_of_resolve hgrown.stay hgrown.current hfile.below hresolve
  rw [hlocation] at hputs
  exact {
    opened := h.opened
    wellFormed := hputs.wellFormed
    current := hputs.current.trans hgrown.current
    stay := fun location hdir => hputs.stay location (hgrown.stay location hdir)
    placeable := by
      intro other hother
      rw [List.nil_append, List.mem_append, List.mem_singleton] at hother
      rcases hother with hother | rfl
      · exact h.placeable_of_waiting hother
      · exact hfile
    distinct := by
      have hdistinct := h.distinct
      rw [List.nil_append] at hdistinct ⊢
      rw [List.map_append, List.map_singleton, List.nodup_append]
      refine ⟨hdistinct, List.nodup_singleton _, ?_⟩
      intro key hkey key' hkey'
      obtain ⟨other, hother, rfl⟩ := List.mem_map.mp hkey
      rw [List.mem_singleton.mp hkey']
      exact hnew other hother
    copies := by
      intro other hother
      rcases List.mem_append.mp hother with hother | hother
      · refine hgrown.copy_of_stay hother hputs.stay hputs.current ?_
        rw [hputs.nodes, if_neg]
        rw [List.append_cancel_left_eq]
        exact hnew other hother
      · rw [List.mem_singleton.mp hother]
        refine read_eq_ok_iff.mpr
          ⟨directory, name, resolve_mono hputs.stay hputs.current hresolve, ?_, hclosed⟩
        rw [hlocation, hputs.nodes, if_pos rfl]
    reads := by simp
    untouched := by
      intro location houtside _
      refine (hgrown.untouched location houtside (by simp)).trans (Untouched.of_eq ?_)
      rw [hputs.nodes, if_neg]
      rintro rfl
      exact houtside (List.prefix_append _ _) }

/-! ## The beginning -/

/-- A path taken from the root leads where it led before. -/
lemma reaches_of_reaches_absolutePath (hwf : fs.WellFormed) {path : String}
    (h : fs.Reaches (absolutePath fs path) location) : fs.Reaches path location := by
  by_cases habsolute : isAbsolute path = true
  · rwa [absolutePath, if_pos habsolute] at h
  · rw [absolutePath, if_neg habsolute] at h
    rw [Bool.not_eq_true] at habsolute
    have hnames : ∀ name ∈ fs.current, IsEntryName name :=
      hwf.names fs.current (by rw [hwf.current]; exact Option.some_ne_none _)
    rw [Reaches, startOf_join _ habsolute, startOf, if_pos (isAbsolute_rooted _),
      steps_join _ habsolute, steps_rooted hnames] at h
    -- the names of the current directory lead there from the root
    obtain ⟨next, hcurrent, hpath⟩ := walk_append_eq_ok.mp h
    obtain ⟨hnext, -⟩ := walk_eq_append (fun hmem => (hnames _ hmem).notAbove rfl) hcurrent
    have hsame : names fs.current = fs.current := by
      refine List.filter_eq_self.mpr fun name hname => ?_
      simpa using (hnames name hname).notHere
    rw [hsame, List.nil_append] at hnext
    rw [Reaches, startOf, if_neg (by simp [habsolute]), ← hnext]
    exact hpath

/-- The staging directory of a name, with files staged in it. -/
def within (root : String) (out : Location) (name : String) (staged : List String) : Staging where
  directory := join root name
  location := out ++ [name]
  staged

/-- A staging directory is created in the output directory, once that one is there. -/
lemma createNamed_eq_ok_iff {naming : Naming} :
    createNamed naming output fs = .ok s fs'
      ↔ ∃ base out, fs.createDirectories output = (none, base)
        ∧ base.find (absolutePath base output) = .ok (out, .directory)
        ∧ s = within (absolutePath base output) out (naming base out) []
        ∧ fs' = base.put (out ++ [naming base out]) .directory := by
  unfold createNamed
  constructor
  · intro h
    split at h
    · cases h
    · rename_i base hcreate
      split at h
      · cases h
      · cases h
      · rename_i out hfind
        cases h
        exact ⟨base, out, hcreate, hfind, rfl, rfl⟩
  · rintro ⟨base, out, hcreate, hfind, rfl, rfl⟩
    simp only [hcreate, hfind]
    rfl

/-- A new directory under a free name changes nothing else. -/
lemma contained_within (hwf : base.WellFormed) (houtput : base.Reaches output out)
    {root name : String} (hroot : base.Reaches root out) (hname : IsEntryName name)
    (hfree : base.nodeAt? (out ++ [name]) = none) (staged : List String) :
    Contained (within root out name staged) base output out
      (base.put (out ++ [name]) .directory) := by
  have hnode : base.nodeAt? (out ++ [name]) ≠ some .directory := by simp [hfree]
  have hdirectory := isDirectory_of_walk hwf (nodeAt?_startOf hwf output) houtput
  constructor
  · exact ⟨⟨hwf, houtput, ⟨root, name, hroot, hname, rfl, rfl⟩, hfree⟩,
      hwf.put hdirectory hname hnode, rfl, directoriesStay_put .directory hnode⟩
  · intro location houtside
    rw [nodeAt?_put_entry, if_neg]
    rintro rfl
    exact houtside List.prefix_rfl

/-- Creating the staging directory changes nothing else. -/
theorem Contained.begin (hwf : fs.WellFormed) {naming : Naming} (hnaming : naming.Fresh)
    (h : createNamed naming output fs = .ok s fs') :
    ∃ base out, fs.createDirectories output = (none, base) ∧ s.staged = []
      ∧ s.location = out ++ [naming base out] ∧ Contained s base output out fs' := by
  obtain ⟨base, out, hcreate, hfind, rfl, rfl⟩ := createNamed_eq_ok_iff.mp h
  have hbase := (grows_of_createDirectories hcreate).wellFormed hwf
  have hroot := reaches_of_find hfind
  refine ⟨base, out, hcreate, rfl, rfl, ?_⟩
  exact contained_within hbase (reaches_of_reaches_absolutePath hbase hroot) hroot
    (hnaming.plain base out) (hnaming.free base out) []

/-- A session begins without files; only directories were added before. -/
theorem createNamed_spec (hwf : fs.WellFormed) {naming : Naming} (hnaming : naming.Fresh)
    (h : createNamed naming output fs = .ok s fs') :
    ∃ base out, Grows fs base ∧ s.staged = [] ∧ s.location = out ++ [naming base out]
      ∧ Progress s base output out [] [] fs' := by
  obtain ⟨base, out, hcreate, hstaged, hlocation, hbegin⟩ := Contained.begin hwf hnaming h
  refine ⟨base, out, grows_of_createDirectories hcreate, hstaged, hlocation, ?_⟩
  exact {
    opened := hbegin.opened
    wellFormed := hbegin.wellFormed
    current := hbegin.current
    stay := hbegin.stay
    placeable := by simp
    distinct := by simp
    copies := by simp
    reads := by simp
    untouched := fun location houtside _ => Untouched.of_eq (hbegin.outside location houtside) }

end ClassBridge.Staging
