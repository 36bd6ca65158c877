import ClassBridge.Proofs.Staging.Containment

/-!
# What is staged ends up in place

Several files may be staged under one path; then the last one counts.  All of them are moved one
after the other, and the first move takes the only copy there is, so the others only succeed because
the file is in place already.  So no matter what is staged twice, what could be read in the staging
directory before the first move can be read in place after the last one (`read_of_commitFiles`).

**While files are staged** each staged file can be read (`Staged`).

**While files are moved** whatever is still in the staging directory was there before, and each file
that is done can be read in its place (`Settling`).

Where all files are in place already moving them changes nothing (`commitFiles_unchanged`).
-/

namespace ClassBridge.Staging

open ClassBridge.Path FileSystem

variable {s : Staging} {base ready fs fs' : FileSystem} {output file : String} {out : Location}
  {staged done : List String}

/-! ## While files are staged -/

/-- All staged files are there. -/
structure Staged (s : Staging) (base : FileSystem) (output : String) (out : Location)
    (staged : List String) (fs : FileSystem) : Prop extends Underway s base output out fs where
  copies : ∀ file ∈ staged, ∃ content, fs.read (s.pathOf file) = .ok content

/-- Staging a file keeps the others, or puts it in the place of one of them. -/
theorem Staged.stage (h : Staged s base output out staged fs) {content : String} {s' : Staging}
    (hstage : Staging.stage { s with staged } file content fs = .ok s' fs') :
    Staged s base output out (staged ++ [file]) fs' := by
  obtain ⟨created, hcreate, hwrite⟩ := exists_of_stage hstage
  have hpath : Staging.pathOf { s with staged } file = s.pathOf file := rfl
  rw [hpath] at hcreate hwrite
  have hgrows := grows_of_createDirectories hcreate
  have hgrown := h.toUnderway.grow hgrows
  obtain ⟨directory, name, hresolve, hclosed, hputs⟩ := write_spec hgrown.wellFormed hwrite
  refine ⟨⟨h.opened, hputs.wellFormed, hputs.current.trans hgrown.current,
    fun location hdir => hputs.stay location (hgrown.stay location hdir)⟩, ?_⟩
  intro other hother
  rcases List.mem_append.mp hother with hother | hother
  · obtain ⟨content', hread⟩ := h.copies other hother
    obtain ⟨directory', name', hresolve', hnode, hopen⟩ := read_eq_ok_iff.mp hread
    have hstay : DirectoriesStay fs fs' :=
      fun location hdir => hputs.stay location (hgrows.directoriesStay location hdir)
    have hresolved := resolve_mono hstay (hputs.current.trans hgrows.current) hresolve'
    by_cases hsame : directory' ++ [name'] = directory ++ [name]
    · exact ⟨_, read_eq_ok_iff.mpr ⟨_, _, hresolved, by rw [hputs.nodes, if_pos hsame], hopen⟩⟩
    · refine ⟨content', read_eq_ok_iff.mpr ⟨_, _, hresolved, ?_, hopen⟩⟩
      rw [hputs.nodes, if_neg hsame]
      exact hgrows.file_iff.mpr hnode
  · rw [List.mem_singleton.mp hother]
    refine ⟨content.toUTF8, read_eq_ok_iff.mpr
      ⟨directory, name, resolve_mono hputs.stay hputs.current hresolve, ?_, hclosed⟩⟩
    rw [hputs.nodes, if_pos rfl]

/-! ## While files are moved -/

/-- What is in the staging directory was there when it was ready, and the files that are done are in
place. -/
structure Settling (s : Staging) (base : FileSystem) (output : String) (out : Location)
    (ready : FileSystem) (done : List String) (fs : FileSystem) : Prop
    extends Underway s base output out fs where
  copies : ∀ inside content, fs.nodeAt? (s.location ++ inside) = some (.file content) →
    ready.nodeAt? (s.location ++ inside) = some (.file content)
  places : ∀ file ∈ done, Placeable s out file
    ∧ ∃ content, ready.nodeAt? (s.location ++ parts file) = some (.file content)
      ∧ fs.read (join output file) = .ok content

/-- Where a staged file is. -/
lemma Underway.node_of_copy (h : Underway s base output out fs) (hfile : IsBelow file)
    {content : ByteArray} (hread : fs.read (s.pathOf file) = .ok content) :
    fs.nodeAt? (s.location ++ parts file) = some (.file content) := by
  obtain ⟨directory, name, hresolve, hnode, -⟩ := read_eq_ok_iff.mp hread
  rwa [← h.opened.location_of_resolve h.stay h.current hfile hresolve]

namespace Settling

/-- Directories may be added at any time. -/
lemma grow (h : Settling s base output out ready done fs) (hgrows : Grows fs fs') :
    Settling s base output out ready done fs' where
  toUnderway := h.toUnderway.grow hgrows
  copies inside content hnode := h.copies inside content (hgrows.file_iff.mp hnode)
  places file hfile := by
    obtain ⟨hplace, content, hready, hread⟩ := h.places file hfile
    refine ⟨hplace, content, hready, read_mono hgrows.directoriesStay hgrows.current hread ?_⟩
    intro directory name hresolve
    refine hgrows.nodeAt?_eq ?_
    rw [location_of_resolve_join hplace.below h.reaches hresolve,
      node_of_read_join hplace.below h.reaches hread]
    exact Option.some_ne_none _

/-- A file that stands in its place is done. -/
lemma leave (h : Settling s base output out ready done fs) (hfile : Placeable s out file)
    (hsame : sameContent fs (s.pathOf file) (join output file) = true) :
    Settling s base output out ready (done ++ [file]) fs where
  toUnderway := h.toUnderway
  copies := h.copies
  places other hother := by
    rcases List.mem_append.mp hother with hother | hother
    · exact h.places other hother
    · rw [List.mem_singleton.mp hother]
      cases hcopy : fs.read (s.pathOf file) with
      | error e => simp [sameContent, hcopy] at hsame
      | ok content =>
          have hnode := h.toUnderway.node_of_copy hfile.below hcopy
          exact ⟨hfile, content, h.copies _ _ hnode, (sameContent_iff hcopy _).mp hsame⟩

/-- A file that is moved into its place is done. -/
lemma move (h : Settling s base output out ready done fs) (hfile : Placeable s out file)
    (hrename : fs.rename (s.pathOf file) (join output file) = .ok fs') :
    Settling s base output out ready (done ++ [file]) fs' := by
  obtain ⟨content, hold, hmoves, hmoved, hplaced⟩ := h.moves hfile.below hrename
  have hcopy := h.copies _ _ hold
  refine ⟨hmoved, ?_, ?_⟩
  · intro inside content' hnode
    rw [hmoves.nodes, if_neg fun heq => hfile.outside ⟨inside, heq⟩] at hnode
    split at hnode
    · cases hnode
    · exact h.copies inside content' hnode
  · intro other hother
    rcases List.mem_append.mp hother with hother | hother
    · obtain ⟨hplace, content', hready, hread⟩ := h.places other hother
      refine ⟨hplace, content', hready, read_mono hmoves.stay hmoves.current hread ?_⟩
      intro found last hresolve
      rw [location_of_resolve_join hplace.below h.reaches hresolve, hmoves.nodes,
        node_of_read_join hplace.below h.reaches hread]
      by_cases heq : out ++ parts other = out ++ parts file
      · -- a file with the same place had the same copy
        rw [List.append_cancel_left heq, hcopy] at hready
        rw [if_pos heq, Option.some.inj hready]
      · rw [if_neg heq, if_neg fun hin => hplace.outside ⟨parts file, hin.symm⟩]
    · rw [List.mem_singleton.mp hother]
      exact ⟨hfile, content, hcopy, hplaced⟩

theorem commitFile (h : Settling s base output out ready done fs) (hfile : Placeable s out file)
    {result : WriteResult} (hcommit : s.commitFile output file fs = .ok result fs') :
    Settling s base output out ready (done ++ [file]) fs' := by
  obtain ⟨hsame, rfl, rfl⟩ | ⟨-, rfl, grown, hgrows, hrename⟩ := commitFile_cases hcommit
  · exact h.leave hfile hsame
  · exact (h.grow hgrows).move hfile hrename

theorem commitFiles (h : Settling s base output out ready done fs) {files : List String}
    (hplace : ∀ file ∈ files, Placeable s out file) {results : List (String × WriteResult)}
    (hcommit : s.commitFiles output files fs = .ok results fs') :
    Settling s base output out ready (done ++ files) fs' := by
  induction files generalizing done fs results with
  | nil =>
      obtain ⟨-, rfl⟩ := Step.pure_eq_ok.mp hcommit
      rwa [List.append_nil]
  | cons file files ih =>
      rw [List.forall_mem_cons] at hplace
      obtain ⟨result, next, hfirst, hcommit⟩ := Step.bind_eq_ok.mp hcommit
      obtain ⟨rest, last, hrest, hcommit⟩ := Step.bind_eq_ok.mp hcommit
      obtain ⟨-, rfl⟩ := Step.pure_eq_ok.mp hcommit
      rw [List.append_cons]
      exact ih (h.commitFile hplace.1 hfirst) hplace.2 hrest

end Settling

/-- **In place.**  When all files are moved and the staging directory is gone, each file reads as
its copy did when the first move began. -/
theorem read_of_commitFiles (h : Underway s base output out ready) {files : List String}
    (hplace : ∀ file ∈ files, Placeable s out file) {results : List (String × WriteResult)}
    (hcommit : s.commitFiles output files ready = .ok results fs) :
    Underway s base output out fs
      ∧ ∀ file ∈ files, ∀ content, ready.read (s.pathOf file) = .ok content →
        (s.discard fs).read (join output file) = .ok content := by
  have hbegin : Settling s base output out ready [] ready := ⟨h, fun _ _ hnode => hnode, by simp⟩
  have hend := hbegin.commitFiles hplace hcommit
  refine ⟨hend.toUnderway, fun file hfile content hcopy => ?_⟩
  obtain ⟨-, content', hready, hread⟩ := hend.places file hfile
  rw [h.node_of_copy (hplace file hfile).below hcopy] at hready
  cases hready
  exact hend.toUnderway.read_discard (hplace file hfile) hread

/-! ## Nothing to move -/

/-- Files that are in place already stay, and so do their copies. -/
theorem commitFiles_unchanged {files : List String}
    (h : ∀ file ∈ files, sameContent fs (s.pathOf file) (join output file) = true) :
    s.commitFiles output files fs = .ok (files.map fun file => (file, .unchanged)) fs := by
  induction files with
  | nil => rfl
  | cons file files ih =>
      rw [List.forall_mem_cons] at h
      have hfirst : s.commitFile output file fs = .ok .unchanged fs := by
        rw [commitFile, if_pos h.1]
      exact Step.bind_eq_ok.mpr ⟨_, _, hfirst, Step.bind_eq_ok.mpr ⟨_, _, ih h.2, rfl⟩⟩

end ClassBridge.Staging
