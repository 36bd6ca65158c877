import ClassBridge.Proofs.Staging.Session

/-!
# From the staging directory into place

Moving a file that waits makes it one in place, and the report says whether it stood there before
with the same content (`Progress.commitFile`).  All files follow by induction
(`Progress.commitFiles`).  In the end the staging directory goes and the files in place stay
(`Progress.discard`).
-/

namespace ClassBridge.Staging

open ClassBridge.Path FileSystem

variable {s : Staging} {base fs fs' : FileSystem} {output : String} {out : Location}
  {placed waiting : List Delivery} {file : Delivery}

/-! ## Same content -/

lemma beq_bytes_iff {x y : ByteArray} : (x == y) = true ↔ x = y := by
  show (x.data == y.data) = true ↔ x = y
  rw [beq_iff_eq]
  exact ByteArray.ext_iff.symm

lemma sameContent_iff {a : String} {content : ByteArray} (ha : fs.read a = .ok content)
    (b : String) : sameContent fs a b = true ↔ fs.read b = .ok content := by
  rw [sameContent, ha]
  cases fs.read b with
  | error e => simp
  | ok found =>
      simp only [beq_bytes_iff, Except.ok.injEq]
      exact eq_comm

/-- Whether a file has to be moved into place. -/
def verdict (before : FileSystem) (out : Location) (file : Delivery) : WriteResult :=
  if before.nodeAt? (out ++ parts file.1) = some (.file file.2.toUTF8) then .unchanged else .written

/-! ## One file -/

/-- What becomes of a file that is not refused: it stood in its place, or it is moved there. -/
lemma commitFile_cases {path : String} {result : WriteResult}
    (h : s.commitFile output path fs = .ok result fs') :
    (sameContent fs (s.pathOf path) (join output path) = true ∧ result = .unchanged ∧ fs' = fs)
      ∨ (sameContent fs (s.pathOf path) (join output path) ≠ true ∧ result = .written
        ∧ ∃ grown, Grows fs grown ∧ grown.rename (s.pathOf path) (join output path) = .ok fs') := by
  simp only [Staging.commitFile] at h
  split at h
  · rename_i hsame
    cases h
    exact Or.inl ⟨hsame, rfl, rfl⟩
  · rename_i hmissing
    split at h
    · cases h
    · rename_i grown hcreate
      split at h
      · rename_i moved hrename
        cases h
        exact Or.inr ⟨hmissing, rfl, grown, grows_of_createDirectories hcreate, hrename⟩
      · cases h

/-- Moving a staged file takes its copy to its place. -/
lemma Underway.moves (h : Underway s base output out fs) {path : String} (hpath : IsBelow path)
    (hrename : fs.rename (s.pathOf path) (join output path) = .ok fs') :
    ∃ content, fs.nodeAt? (s.location ++ parts path) = some (.file content)
      ∧ Moves fs fs' (s.location ++ parts path) (out ++ parts path) content
      ∧ Underway s base output out fs' ∧ fs'.read (join output path) = .ok content := by
  obtain ⟨directory, name, directory', name', content, hsource, hdestination, hclosed, hcopy,
    hmoves⟩ := rename_spec h.wellFormed hrename
  have hto := location_of_resolve_join hpath h.reaches hdestination
  rw [h.opened.location_of_resolve h.stay h.current hpath hsource] at hcopy hmoves
  rw [hto] at hmoves
  refine ⟨content, hcopy, hmoves, ?_, ?_⟩
  · exact ⟨h.opened, hmoves.wellFormed, hmoves.current.trans h.current,
      fun location hdirectory => hmoves.stay location (h.stay location hdirectory)⟩
  · refine read_eq_ok_iff.mpr
      ⟨directory', name', resolve_mono hmoves.stay hmoves.current hdestination, ?_, hclosed.2⟩
    rw [hto, hmoves.nodes, if_pos rfl]

/-! ## The list of files -/

/-- What is moved does not depend on what else is staged. -/
lemma commitFiles_staged (s : Staging) (staged : List String) (output : String)
    (files : List String) :
    Staging.commitFiles { s with staged } output files = s.commitFiles output files := by
  induction files with
  | nil => rfl
  | cons file files ih =>
      rw [commitFiles, commitFiles, ih]
      rfl

/-- Results are given for all files, in their order. -/
lemma map_fst_of_commitFiles {files : List String} {results : List (String × WriteResult)}
    (h : s.commitFiles output files fs = .ok results fs') : results.map Prod.fst = files := by
  induction files generalizing fs results with
  | nil =>
      obtain ⟨rfl, -⟩ := Step.pure_eq_ok.mp h
      rfl
  | cons file files ih =>
      obtain ⟨result, next, -, h⟩ := Step.bind_eq_ok.mp h
      obtain ⟨rest, last, hrest, h⟩ := Step.bind_eq_ok.mp h
      obtain ⟨rfl, rfl⟩ := Step.pure_eq_ok.mp h
      rw [List.map_cons, ih hrest]

namespace Progress

/-! ## One file of a session -/

/-- A file that stands in its place needs no move. -/
lemma leave (h : Progress s base output out placed (file :: waiting) fs)
    (hread : fs.read (join output file.1) = .ok file.2.toUTF8) :
    Progress s base output out (placed ++ [file]) waiting fs where
  opened := h.opened
  wellFormed := h.wellFormed
  current := h.current
  stay := h.stay
  placeable := by simpa using h.placeable
  distinct := by simpa using h.distinct
  copies other hother := h.copies other (List.mem_cons_of_mem _ hother)
  reads := by
    intro other hother
    rcases List.mem_append.mp hother with hother | hother
    · exact h.reads other hother
    · rw [List.mem_singleton.mp hother]
      exact hread
  untouched location houtside hne :=
    h.untouched location houtside fun other hother => hne other (List.mem_append_left _ hother)

/-- A file is moved into place. -/
lemma move (h : Progress s base output out placed (file :: waiting) fs)
    (hrename : fs.rename (s.pathOf file.1) (join output file.1) = .ok fs') :
    Progress s base output out (placed ++ [file]) waiting fs' := by
  have hfile : Placeable s out file.1 := h.placeable_of_waiting List.mem_cons_self
  have hdistinct := parts_ne_of_nodup h.distinct
  obtain ⟨content, hcopy, hmoves, hunderway, hread⟩ := h.underway.moves hfile.below hrename
  rw [h.node_of_waiting List.mem_cons_self] at hcopy
  cases hcopy
  -- the two locations that change are the staged copy and its place
  have hwaits : ∀ other ∈ waiting, fs'.nodeAt? (s.location ++ parts other.1)
      = fs.nodeAt? (s.location ++ parts other.1) := by
    intro other hother
    rw [hmoves.nodes, if_neg, if_neg]
    · rw [List.append_cancel_left_eq]
      exact hdistinct other (List.mem_append_right _ hother)
    · intro heq
      exact hfile.outside (heq ▸ List.prefix_append _ _)
  have houtside : ∀ location, ¬ s.location <+: location →
      location ≠ out ++ parts file.1 → fs'.nodeAt? location = fs.nodeAt? location := by
    intro location hlocation hne
    rw [hmoves.nodes, if_neg hne, if_neg]
    rintro rfl
    exact hlocation (List.prefix_append _ _)
  exact {
    opened := hunderway.opened
    wellFormed := hunderway.wellFormed
    current := hunderway.current
    stay := hunderway.stay
    placeable := by simpa using h.placeable
    distinct := by simpa using h.distinct
    copies := by
      intro other hother
      exact h.copy_of_stay (List.mem_cons_of_mem _ hother) hmoves.stay hmoves.current
        (hwaits other hother)
    reads := by
      intro other hother
      rcases List.mem_append.mp hother with hother | hother
      · refine h.read_of_stay hother hmoves.stay hmoves.current ?_
        refine houtside _ (h.placeable_of_placed hother).outside fun heq => ?_
        exact hdistinct other (List.mem_append_left _ hother) (List.append_cancel_left heq)
      · rw [List.mem_singleton.mp hother]
        exact hread
    untouched := by
      intro location hlocation hne
      refine (h.untouched location hlocation fun other hother =>
        hne other (List.mem_append_left _ hother)).trans (Untouched.of_eq ?_)
      exact houtside location hlocation (hne file (by simp)) }

/-- Moving a file into place reports whether it stood there. -/
theorem commitFile (h : Progress s base output out placed (file :: waiting) fs)
    {result : WriteResult} (hcommit : s.commitFile output file.1 fs = .ok result fs') :
    result = verdict base out file ∧ Progress s base output out (placed ++ [file]) waiting fs' := by
  have hfile : Placeable s out file.1 := h.placeable_of_waiting List.mem_cons_self
  have hsame := sameContent_iff (h.copies file List.mem_cons_self) (join output file.1)
  -- what stood there at first stands there still
  have hbefore : fs.nodeAt? (out ++ parts file.1) = some (.file file.2.toUTF8)
      ↔ base.nodeAt? (out ++ parts file.1) = some (.file file.2.toUTF8) := by
    refine (h.untouched _ hfile.outside fun other hother heq => ?_).file _
    exact parts_ne_of_nodup h.distinct other (List.mem_append_left _ hother)
      (List.append_cancel_left heq).symm
  obtain ⟨hthere, rfl, rfl⟩ | ⟨hmissing, rfl, grown, hgrows, hrename⟩ := commitFile_cases hcommit
  · have hread := hsame.mp hthere
    have hnode := node_of_read_join hfile.below h.reaches hread
    exact ⟨by rw [verdict, if_pos (hbefore.mp hnode)], h.leave hread⟩
  · have hgrown := h.grow hgrows
    refine ⟨?_, hgrown.move hrename⟩
    rw [verdict, if_neg]
    intro hnode
    exact hmissing (hsame.mpr
      (h.underway.read_place hgrown.underway hfile.below hrename (hbefore.mpr hnode)))

/-! ## All files -/

/-- All files that wait are moved, one after the other. -/
theorem commitFiles (h : Progress s base output out placed waiting fs) {staged : List String}
    {results : List (String × WriteResult)}
    (hcommit : Staging.commitFiles { s with staged } output (waiting.map Prod.fst) fs
      = .ok results fs') :
    results = (waiting.map fun file => (file.1, verdict base out file))
      ∧ Progress s base output out (placed ++ waiting) [] fs' := by
  induction waiting generalizing placed fs results with
  | nil =>
      obtain ⟨rfl, rfl⟩ := Step.pure_eq_ok.mp hcommit
      rw [List.append_nil]
      exact ⟨rfl, h⟩
  | cons file waiting ih =>
      rw [List.map_cons, Staging.commitFiles] at hcommit
      obtain ⟨result, next, hfirst, hcommit⟩ := Step.bind_eq_ok.mp hcommit
      obtain ⟨rest, last, hrest, hcommit⟩ := Step.bind_eq_ok.mp hcommit
      obtain ⟨rfl, rfl⟩ := Step.pure_eq_ok.mp hcommit
      obtain ⟨hresult, hnext⟩ := h.commitFile hfirst
      obtain ⟨hresults, hlast⟩ := ih hnext hrest
      rw [List.append_assoc, List.singleton_append] at hlast
      exact ⟨by rw [hresult, hresults, List.map_cons], hlast⟩

end Progress

/-! ## The end -/

lemma verdict_of_grows {before : FileSystem} (h : Grows before base) (out : Location)
    (file : Delivery) : verdict base out file = verdict before out file := by
  rw [verdict, verdict]
  simp only [h.file_iff]

lemma verdict_eq_unchanged_iff {before : FileSystem} :
    verdict before out file = .unchanged
      ↔ before.nodeAt? (out ++ parts file.1) = some (.file file.2.toUTF8) := by
  unfold verdict
  split <;> simp_all

/-- What is left when all files are in place and the staging directory is gone.  A file counts as
unchanged if it stood in its place before, whether the path of the output directory led there then
or not; it did unless it goes up from a directory that was missing. -/
structure Delivered (s : Staging) (before : FileSystem) (output : String) (out : Location)
    (files : List Delivery) (results : List (String × WriteResult)) (after : FileSystem) :
    Prop where
  reaches : after.Reaches output out
  reads : ∀ file ∈ files, after.read (join output file.1) = .ok file.2.toUTF8
  results : results = files.map fun file => (file.1, verdict before out file)
  readable : (".." ∈ steps output → ∃ there, before.Reaches output there) → ∀ file ∈ files,
    (verdict before out file = .unchanged
      ↔ before.read (join output file.1) = .ok file.2.toUTF8)
  untouched : ∀ location, (∀ file ∈ files, location ≠ out ++ parts file.1) →
    Untouched before after location
  gone : ∀ location, s.location <+: location → after.nodeAt? location = none

lemma nodeAt?_discard (h : Opened s base output out) (fs : FileSystem) (location : Location) :
    (s.discard fs).nodeAt? location
      = if s.location <+: location then none else fs.nodeAt? location :=
  nodeAt?_removeTree_of_ne_nil fs h.location_ne_nil location

namespace Underway

lemma wellFormed_discard (h : Underway s base output out fs) : (s.discard fs).WellFormed := by
  refine h.wellFormed.removeTree h.opened.location_ne_nil ?_
  rw [h.current]
  exact h.opened.not_isPrefix h.opened.wellFormed.current

lemma stay_discard (h : Underway s base output out fs) : DirectoriesStay base (s.discard fs) := by
  intro location hdirectory
  rw [nodeAt?_discard h.opened, if_neg (h.opened.not_isPrefix hdirectory)]
  exact h.stay location hdirectory

lemma current_discard (h : Underway s base output out fs) :
    (s.discard fs).current = base.current := h.current

lemma reaches_discard (h : Underway s base output out fs) : (s.discard fs).Reaches output out :=
  h.opened.output.mono h.stay_discard h.current_discard

/-- What is in place can be read without the staging directory too. -/
lemma read_discard (h : Underway s base output out fs) {path : String} {content : ByteArray}
    (hplace : Placeable s out path) (hread : fs.read (join output path) = .ok content) :
    (s.discard fs).read (join output path) = .ok content := by
  obtain ⟨directory, name, hresolve, -, hclosed⟩ := read_eq_ok_iff.mp hread
  have hcurrent : fs.current = (s.discard fs).current := rfl
  refine read_join_of_node h.wellFormed_discard hplace.below hcurrent h.reaches_discard h.reaches
    hresolve hclosed ?_
  rw [nodeAt?_discard h.opened, if_neg hplace.outside]
  exact node_of_read_join hplace.below h.reaches hread

end Underway

namespace Progress

/-- The staging directory goes with all that is in it. -/
theorem discard (h : Progress s base output out placed [] fs) {before : FileSystem}
    (hwf : before.WellFormed) (hgrows : Grows before base) :
    Delivered s before output out placed
      (placed.map fun file => (file.1, verdict base out file)) (s.discard fs) where
  reaches := h.underway.reaches_discard
  reads file hfile := h.underway.read_discard (h.placeable_of_placed hfile) (h.reads file hfile)
  results := by simp only [verdict_of_grows hgrows]
  readable := by
    intro hup file hfile
    obtain ⟨directory, name, hresolve, -, hclosed⟩ := read_eq_ok_iff.mp (h.reads file hfile)
    rw [verdict_eq_unchanged_iff]
    exact (hgrows.read_join_iff hwf (h.placeable_of_placed hfile).below hup h.opened.output
      (h.current.trans hgrows.current) h.reaches hresolve hclosed).symm
  untouched := by
    intro location hne
    refine (Untouched.of_grows hgrows location).trans ?_
    by_cases hpre : s.location <+: location
    · refine Untouched.of_eq ?_
      rw [nodeAt?_discard h.opened, if_pos hpre, h.opened.nodeAt?_eq_none hpre]
    · refine (h.untouched location hpre hne).trans (Untouched.of_eq ?_)
      rw [nodeAt?_discard h.opened, if_neg hpre]
  gone := by
    intro location hpre
    rw [nodeAt?_discard h.opened, if_pos hpre]

end Progress

end ClassBridge.Staging
