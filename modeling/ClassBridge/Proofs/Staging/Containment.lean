import ClassBridge.Proofs.FileSystem.Creation
import ClassBridge.Proofs.Staging.Commit

/-!
# Nothing leaves the staging directory

Until files are moved, everything happens inside the staging directory.  Staging a file creates the
directories above it and writes it, and may fail after any of these steps; nothing outside changes
in either case (`keeps_stage`), because the way from the root to the staging directory is there
already and the way on never goes up (`Underway.inside`).  So when the staging directory is removed,
everything is as it was before it was created (`Contained.nodeAt?_discard`).
-/

namespace ClassBridge.Staging

open ClassBridge.Path FileSystem

variable {s : Staging} {base fs fs' : FileSystem} {output : String} {out location : Location}
  {file : String}

/-! ## The way into the staging directory -/

/-- The output directory is there. -/
lemma Underway.nodeAt?_out (h : Underway s base output out fs) : fs.nodeAt? out = some .directory :=
  h.stay out (isDirectory_of_walk h.opened.wellFormed
    (nodeAt?_startOf h.opened.wellFormed output) h.opened.output)

/-- What is new on the way to a staged copy is in the staging directory. -/
lemma Underway.inside (h : Underway s base output out fs) (hfile : IsBelow file)
    (hstay : DirectoriesStay fs fs') {passed : List String}
    (hpassed : passed <+: parts (s.pathOf file))
    (hwalk : fs'.walk (fs.startOf (s.pathOf file)) passed = .ok location)
    (hnew : fs.nodeAt? location = none) : s.location <+: location := by
  obtain ⟨root, name, hroot, hname, hlocation, hpath⟩ := h.opened.exists_pathOf
  have hrelative := isAbsolute_entry_slash hname file
  rw [hpath file hfile, parts_join root hrelative, parts_entry_slash hname] at hpassed
  rw [hpath file hfile, startOf_join root hrelative] at hwalk
  have hout : fs.walk (fs.startOf root) (parts root) = .ok out := by
    rw [← names_steps, walk_names]
    exact hroot.mono h.stay h.current
  rcases List.prefix_or_prefix_of_prefix hpassed (List.prefix_append _ _) with hshort | ⟨more, rfl⟩
  · -- the way up to the output directory was there before
    obtain ⟨rest, hrest⟩ := hshort
    rw [← hrest] at hout
    obtain ⟨next, hnext, -⟩ := walk_append_eq_ok.mp hout
    have hsame := walk_mono hstay hnext
    rw [hwalk] at hsame
    cases hsame
    have hdirectory := isDirectory_of_walk h.wellFormed (nodeAt?_startOf h.wellFormed root) hnext
    rw [hnew] at hdirectory
    cases hdirectory
  · rw [List.prefix_append_right_inj] at hpassed
    obtain ⟨next, hnext, hmore⟩ := walk_append_eq_ok.mp hwalk
    rw [walk_mono hstay hout] at hnext
    cases hnext
    cases more with
    | nil =>
        cases hmore
        rw [h.nodeAt?_out] at hnew
        cases hnew
    | cons first more =>
        obtain ⟨rfl, hmore'⟩ := List.cons_prefix_cons.mp hpassed
        have hdown : ".." ∉ first :: more := by
          rw [List.mem_cons, not_or]
          refine ⟨fun e => hname.notAbove e.symm, fun hmem => hfile.noAbove ?_⟩
          have hpart := hmore'.subset hmem
          rw [parts_eq] at hpart
          exact (List.mem_filter.mp hpart).1
        obtain ⟨rfl, -⟩ := walk_eq_append hdown hmore
        rw [hlocation, names_cons hname.notHere, List.prefix_append_right_inj]
        exact ⟨names more, rfl⟩

/-! ## Staging -/

namespace Contained

/-- Directories may be added inside the staging directory. -/
lemma grow (h : Contained s base output out fs) (hgrows : Grows fs fs')
    (hinside : ∀ location, fs.nodeAt? location = none → fs'.nodeAt? location ≠ none →
      s.location <+: location) : Contained s base output out fs' where
  toUnderway := h.toUnderway.grow hgrows
  outside location houtside := by
    rw [← h.outside location houtside]
    rcases hgrows.nodes location with heq | ⟨hnone, hdirectory⟩
    · exact heq
    · exact absurd (hinside location hnone (by simp [hdirectory])) houtside

/-- The directories above a staged copy are in the staging directory. -/
lemma createDirectories (h : Contained s base output out fs) (hfile : IsBelow file) :
    Contained s base output out (fs.createDirectories (parentPath (s.pathOf file))).2 := by
  have hparent : (parts (s.pathOf file)).dropLast <+: parts (s.pathOf file) :=
    List.dropLast_prefix _
  have hgrows := growsAlong_createDirectories (parentPath (s.pathOf file)) fs
  rw [parentPath, startOf_pathOf fs hparent, parts_pathOf _ hparent] at hgrows
  refine h.grow hgrows.grows fun location hnone hsome => ?_
  obtain ⟨passed, hpassed, hwalk⟩ := hgrows.along location hnone hsome
  exact h.inside hfile hgrows.grows.directoriesStay (hpassed.trans hparent) hwalk hnone

/-- So is the copy. -/
lemma write (h : Contained s base output out fs) (hfile : IsBelow file) {content : ByteArray}
    (hwrite : fs.write (s.pathOf file) content = .ok fs') : Contained s base output out fs' := by
  obtain ⟨directory, name, hresolve, -, hputs⟩ := write_spec h.wellFormed hwrite
  rw [h.opened.location_of_resolve h.stay h.current hfile hresolve] at hputs
  constructor
  · exact ⟨h.opened, hputs.wellFormed, hputs.current.trans h.current,
      fun location hdirectory => hputs.stay location (h.stay location hdirectory)⟩
  · intro location houtside
    rw [hputs.nodes, if_neg]
    · exact h.outside location houtside
    · rintro rfl
      exact houtside (List.prefix_append _ _)

/-- Without the staging directory everything is as it was. -/
theorem nodeAt?_discard (h : Contained s base output out fs) (location : Location) :
    (s.discard fs).nodeAt? location = base.nodeAt? location := by
  rw [Staging.nodeAt?_discard h.opened]
  split
  · rename_i hinside
    exact (h.opened.nodeAt?_eq_none hinside).symm
  · rename_i houtside
    exact h.outside location houtside

end Contained

/-- Staging a file changes nothing outside of the staging directory, even if it fails half-way. -/
theorem keeps_stage (hfile : IsBelow file) (staged : List String) (content : String) :
    Step.Keeps (Contained s base output out) (Staging.stage { s with staged } file content) := by
  intro fs h
  have hcreated := h.createDirectories hfile
  have hpath : Staging.pathOf { s with staged } file = s.pathOf file := rfl
  unfold Staging.stage
  rw [hpath]
  split
  · rename_i hcreate
    rwa [hcreate] at hcreated
  · rename_i middle hcreate
    rw [hcreate] at hcreated
    split
    · exact hcreated
    · rename_i written hwrite
      exact hcreated.write hfile hwrite

/-! ## Opening -/

/-- If no staging directory is created, at most directories on the way to the output directory
are. -/
lemma growsAlong_of_createNamed {naming : Naming} {failure : Failure}
    (h : createNamed naming output fs = .error failure fs') :
    GrowsAlong (fs.startOf output) (parts output) fs fs' := by
  have hgrows := growsAlong_createDirectories output fs
  unfold createNamed at h
  split at h
  · rename_i hcreate
    cases h
    rwa [hcreate] at hgrows
  · rename_i hcreate
    rw [hcreate] at hgrows
    split at h
    · cases h
      exact hgrows
    · cases h
      exact hgrows
    · cases h

/-- When the staging directory is gone again, at most directories on the way to the output directory
are left. -/
lemma Contained.growsAlong_discard (h : Contained s base output out fs') {error : Option FileError}
    (hcreate : fs.createDirectories output = (error, base)) :
    GrowsAlong (fs.startOf output) (parts output) fs (s.discard fs') := by
  have hgrows := growsAlong_createDirectories output fs
  rw [hcreate] at hgrows
  exact hgrows.congr h.current h.nodeAt?_discard

end ClassBridge.Staging
