import ClassBridge.Proofs.FileSystem.Operations

/-!
# Where directories are created

Creating a directory with those above it adds nothing off its path: every directory that is new
afterwards is passed by a walk along the path (`growsAlong_createDirectories`).  This holds when
the creation fails half-way too.

`GrowsAlong` says this of two file systems.  It only looks at what stands where, so it carries over
to every file system with the same nodes (`GrowsAlong.congr`).
-/

namespace ClassBridge.FileSystem

open ClassBridge.Path

variable {fs fs' fs'' : FileSystem} {start location : Location} {trail trail' : List String}

/-- Nothing changed but that there may be more directories, each of them on the way along a trail
of names. -/
structure GrowsAlong (start : Location) (trail : List String) (fs fs' : FileSystem) : Prop where
  grows : Grows fs fs'
  along : ∀ location, fs.nodeAt? location = none → fs'.nodeAt? location ≠ none →
    ∃ passed, passed <+: trail ∧ fs'.walk start passed = .ok location

namespace GrowsAlong

lemma refl (start : Location) (trail : List String) (fs : FileSystem) :
    GrowsAlong start trail fs fs := ⟨Grows.refl fs, fun _ hnone hsome => absurd hnone hsome⟩

lemma trans (h : GrowsAlong start trail fs fs') (h' : GrowsAlong start trail fs' fs'') :
    GrowsAlong start trail fs fs'' := by
  refine ⟨h.grows.trans h'.grows, fun location hnone hsome => ?_⟩
  by_cases hmiddle : fs'.nodeAt? location = none
  · exact h'.along location hmiddle hsome
  · obtain ⟨passed, hpassed, hwalk⟩ := h.along location hnone hmiddle
    exact ⟨passed, hpassed, walk_mono h'.grows.directoriesStay hwalk⟩

lemma longer (h : GrowsAlong start trail fs fs') (htrail : trail <+: trail') :
    GrowsAlong start trail' fs fs' := by
  refine ⟨h.grows, fun location hnone hsome => ?_⟩
  obtain ⟨passed, hpassed, hwalk⟩ := h.along location hnone hsome
  exact ⟨passed, hpassed.trans htrail, hwalk⟩

/-- Only what stands where matters. -/
lemma congr (h : GrowsAlong start trail fs fs') (hcurrent : fs''.current = fs'.current)
    (hnodes : ∀ location, fs''.nodeAt? location = fs'.nodeAt? location) :
    GrowsAlong start trail fs fs'' := by
  have hstay : DirectoriesStay fs' fs'' := fun location hdir => (hnodes location).trans hdir
  refine ⟨⟨hcurrent.trans h.grows.current, ?_, ?_⟩, ?_⟩
  · intro location
    rw [hnodes]
    exact h.grows.nodes location
  · intro hwf
    have hwf' := h.grows.wellFormed hwf
    constructor
    · intro above name hnode
      rw [hnodes] at hnode ⊢
      exact hwf'.parents above name hnode
    · intro other hnode
      rw [hnodes] at hnode
      exact hwf'.names other hnode
    · rw [hnodes, hcurrent]
      exact hwf'.current
  · intro location hnone hsome
    rw [hnodes] at hsome
    obtain ⟨passed, hpassed, hwalk⟩ := h.along location hnone hsome
    exact ⟨passed, hpassed, walk_mono hstay hwalk⟩

end GrowsAlong

/-! ## Trails of paths -/

/-- Dots that stay where they are do not change where a walk leads. -/
lemma walk_names (fs : FileSystem) (start : Location) (path : List String) :
    fs.walk start (names path) = fs.walk start path := by
  induction path generalizing start with
  | nil => rfl
  | cons step path ih =>
      by_cases hhere : step = "."
      · subst hhere
        rw [names_cons_here, ih, walk, walk, List.foldlM_cons, enter, if_pos rfl]
        rfl
      · rw [names_cons hhere, walk, walk, List.foldlM_cons, List.foldlM_cons]
        exact congrArg _ (funext ih)

/-- An entry of a directory is at the end of the parts of its path, once a directory is there. -/
lemma walk_parts_of_resolve {path name : String} {directory : Location}
    (hresolve : fs.resolve path = .ok (.entry directory name)) (hstay : DirectoriesStay fs fs')
    (hnode : fs'.nodeAt? (directory ++ [name]) = some .directory) :
    fs'.walk (fs.startOf path) (parts path) = .ok (directory ++ [name]) := by
  obtain ⟨-, above, hsteps, hhere, habove, hlimit, hwalk⟩ := resolve_eq_entry_iff.mp hresolve
  rw [← names_steps, walk_names, hsteps]
  refine walk_append_eq_ok.mpr ⟨directory, walk_mono hstay hwalk, ?_⟩
  exact walk_cons_eq_ok.mpr ⟨_, (enter_eq_ok_iff hhere habove).mpr ⟨hlimit, hnode, rfl⟩, rfl⟩

lemma parts_pathOf (absolute : Bool) {path : String} (htrail : trail <+: parts path) :
    parts (pathOf absolute trail) = trail := by
  have hnames : ∀ name ∈ trail, name ≠ "" ∧ '/' ∉ name.toList ∧ name ≠ "." :=
    fun name hname => mem_parts (htrail.subset hname)
  rw [parts_eq,
    steps_pathOf absolute fun name hname => ⟨(hnames name hname).1, (hnames name hname).2.1⟩]
  exact List.filter_eq_self.mpr fun name hname => by simpa using (hnames name hname).2.2

lemma startOf_pathOf (fs : FileSystem) {path : String} (htrail : trail <+: parts path) :
    fs.startOf (pathOf (isAbsolute path) trail) = fs.startOf path := by
  have hnames : ∀ name ∈ trail, name ≠ "" ∧ '/' ∉ name.toList := fun name hname =>
    ⟨(mem_parts (htrail.subset hname)).1, (mem_parts (htrail.subset hname)).2.1⟩
  rw [startOf, startOf, isAbsolute_pathOf _ hnames]

/-! ## Creation -/

lemma growsAlong_createDirectory {path : String} (h : fs.createDirectory path = .ok fs') :
    GrowsAlong (fs.startOf path) (parts path) fs fs' := by
  have hgrows := grows_createDirectory h
  refine ⟨hgrows, fun location hnone hsome => ?_⟩
  obtain ⟨target, hresolve, htarget⟩ := Check.bind_eq_ok.mp h
  cases target with
  | directory reached => cases htarget
  | entry directory name =>
      cases hnode : fs.nodeAt? (directory ++ [name]) with
      | some node => simp [hnode] at htarget
      | none =>
          simp only [hnode, Except.ok.injEq] at htarget
          subst htarget
          have hnew := nodeAt?_put_entry fs directory name .directory
          have hlocation : location = directory ++ [name] := by
            by_contra hne
            rw [hnew, if_neg hne] at hsome
            exact hsome hnone
          refine ⟨parts path, List.prefix_rfl, ?_⟩
          rw [hlocation]
          exact walk_parts_of_resolve hresolve hgrows.directoriesStay (by rw [hnew, if_pos rfl])

lemma growsAlong_ensureDirectory {path : String} (h : fs.ensureDirectory path = .ok fs') :
    GrowsAlong (fs.startOf path) (parts path) fs fs' := by
  unfold ensureDirectory at h
  split at h
  · rename_i hcreate
    cases h
    exact growsAlong_createDirectory hcreate
  · cases h
  · split at h
    · cases h
      exact GrowsAlong.refl _ _ fs
    · cases h

/-- The same for a path of some parts of another one. -/
lemma growsAlong_ensureDirectory_pathOf {path : String} (htrail : trail <+: parts path)
    (h : fs.ensureDirectory (pathOf (isAbsolute path) trail) = .ok fs') :
    GrowsAlong (fs.startOf path) trail fs fs' := by
  have hensure := growsAlong_ensureDirectory h
  rwa [startOf_pathOf fs htrail, parts_pathOf _ htrail] at hensure

lemma growsAlong_createFromParts {path : String} (fs : FileSystem) (reversed : List String)
    (htrail : reversed.reverse <+: parts path) :
    GrowsAlong (fs.startOf path) reversed.reverse fs
      (createFromParts (isAbsolute path) reversed fs).2 := by
  induction reversed generalizing fs with
  | nil => exact GrowsAlong.refl _ _ fs
  | cons part above ih =>
      rw [List.reverse_cons] at htrail ⊢
      have hshorter : above.reverse <+: above.reverse ++ [part] := List.prefix_append _ _
      have habove := (ih fs (hshorter.trans htrail)).longer hshorter
      rw [createFromParts]
      split
      · rename_i hensure
        exact growsAlong_ensureDirectory_pathOf htrail hensure
      · split
        · rename_i habove'
          rwa [habove'] at habove
        · rename_i middle habove'
          rw [habove'] at habove
          split
          · rename_i hensure
            have hlast := growsAlong_ensureDirectory_pathOf htrail hensure
            rw [startOf, habove.grows.current] at hlast
            exact habove.trans hlast
          · exact habove
      · exact GrowsAlong.refl _ _ fs

/-- **New directories are on the path.**  Whether all directories of a path can be created or not,
those that are new are passed on the way along the path. -/
theorem growsAlong_createDirectories (path : String) (fs : FileSystem) :
    GrowsAlong (fs.startOf path) (parts path) fs (createDirectories path fs).2 := by
  rw [createDirectories]
  split
  · exact GrowsAlong.refl _ _ fs
  · split
    · rename_i hensure
      exact growsAlong_ensureDirectory hensure
    · have hshorter : (parts path).dropLast.reverse.reverse <+: parts path := by
        rw [List.reverse_reverse]
        exact List.dropLast_prefix _
      have habove := (growsAlong_createFromParts fs _ hshorter).longer hshorter
      split
      · rename_i habove'
        rwa [habove'] at habove
      · rename_i habove'
        rw [habove'] at habove
        split
        · rename_i hensure
          have hlast := growsAlong_ensureDirectory hensure
          rw [startOf, habove.grows.current] at hlast
          exact habove.trans hlast
        · exact habove
    · exact GrowsAlong.refl _ _ fs

end ClassBridge.FileSystem
