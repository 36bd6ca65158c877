import ClassBridge.Proofs.Staging.Containment

/-!
# When moving files fails half-way

Files are moved one after the other, and nothing is taken back when one cannot be moved.  A `Record`
says what happened up to then: a file that is reported as written left the staging directory for a
place where something else stood, and everywhere else no file came or went.  Records of two runs add
up (`Record.append`), so that one move (`record_commitFile`) gives all (`record_commitFiles`).

A move that fails leaves the places outside of the staging directory untouched exactly if no file
had been written before it (`commit_interrupted`).  The same path may be staged twice.
-/

namespace ClassBridge.Staging

open ClassBridge.Path FileSystem

variable {s : Staging} {base before middle after fs fs' : FileSystem} {output : String}
  {out location : Location} {file : String} {first second : List (String × WriteResult)}

/-! ## Records -/

/-- A file went from the staging directory to its place, where it did not stand before. -/
structure Relocated (s : Staging) (out : Location) (before after : FileSystem) (file : String)
    (content : ByteArray) : Prop where
  copy : before.nodeAt? (s.location ++ parts file) = some (.file content)
  other : before.nodeAt? (out ++ parts file) ≠ some (.file content)
  place : after.nodeAt? (out ++ parts file) = some (.file content)
  gone : ∀ content, after.nodeAt? (s.location ++ parts file) ≠ some (.file content)

/-- What results say about two states. -/
structure Record (s : Staging) (out : Location) (before after : FileSystem)
    (results : List (String × WriteResult)) : Prop where
  moved : ∀ result ∈ results, result.2 = .written →
    ∃ content, Relocated s out before after result.1 content
  untouched : ∀ location, (∀ result ∈ results, result.2 = .written →
      location ≠ out ++ parts result.1 ∧ location ≠ s.location ++ parts result.1) →
    Untouched before after location

namespace Record

lemma of_grows (h : Grows before after) : Record s out before after [] where
  moved := by simp
  untouched location _ := Untouched.of_grows h location

/-- A file whose copy is gone is not moved a second time. -/
lemma parts_ne (h : Record s out before middle first) (h' : Record s out middle after second)
    {result result' : String × WriteResult} (hmem : result ∈ first) (hwritten : result.2 = .written)
    (hmem' : result' ∈ second) (hwritten' : result'.2 = .written) :
    parts result.1 ≠ parts result'.1 := by
  intro heq
  obtain ⟨content, hmoved⟩ := h.moved result hmem hwritten
  obtain ⟨content', hmoved'⟩ := h'.moved result' hmem' hwritten'
  have hcopy := hmoved'.copy
  rw [← heq] at hcopy
  exact hmoved.gone content' hcopy

/-- Records of two runs add up. -/
theorem append (h : Record s out before middle first) (h' : Record s out middle after second)
    (hplace : ∀ result ∈ first ++ second, Placeable s out result.1) :
    Record s out before after (first ++ second) := by
  have houtside : ∀ result ∈ first ++ second, ∀ file,
      out ++ parts result.1 ≠ s.location ++ parts file := by
    intro result hmem file heq
    exact (hplace result hmem).outside (heq ▸ List.prefix_append _ _)
  constructor
  · intro result hmem hwritten
    rcases List.mem_append.mp hmem with hfirst | hsecond
    · -- moved first: the second run touches neither its place nor its copy
      obtain ⟨content, hmoved⟩ := h.moved result hfirst hwritten
      have hlater : ∀ result' ∈ second, result'.2 = .written →
          parts result.1 ≠ parts result'.1 :=
        fun result' hmem' hwritten' => h.parts_ne h' hfirst hwritten hmem' hwritten'
      have hplace' : Untouched middle after (out ++ parts result.1) :=
        h'.untouched _ fun result' hmem' hwritten' =>
          ⟨fun heq => hlater result' hmem' hwritten' (List.append_cancel_left heq),
            houtside result hmem result'.1⟩
      have hcopy' : Untouched middle after (s.location ++ parts result.1) :=
        h'.untouched _ fun result' hmem' hwritten' =>
          ⟨(houtside result' (List.mem_append_right _ hmem') result.1).symm,
            fun heq => hlater result' hmem' hwritten' (List.append_cancel_left heq)⟩
      exact ⟨content, hmoved.copy, hmoved.other, (hplace'.file content).mpr hmoved.place,
        fun content' hnode => hmoved.gone content' ((hcopy'.file content').mp hnode)⟩
    · obtain ⟨content, hmoved⟩ := h'.moved result hsecond hwritten
      have hearlier : ∀ result' ∈ first, result'.2 = .written →
          parts result'.1 ≠ parts result.1 :=
        fun result' hmem' hwritten' => h.parts_ne h' hmem' hwritten' hsecond hwritten
      have hplace' : Untouched before middle (out ++ parts result.1) :=
        h.untouched _ fun result' hmem' hwritten' =>
          ⟨fun heq => hearlier result' hmem' hwritten' (List.append_cancel_left heq).symm,
            houtside result hmem result'.1⟩
      have hcopy' : Untouched before middle (s.location ++ parts result.1) :=
        h.untouched _ fun result' hmem' hwritten' =>
          ⟨(houtside result' (List.mem_append_left _ hmem') result.1).symm,
            fun heq => hearlier result' hmem' hwritten' (List.append_cancel_left heq).symm⟩
      exact ⟨content, (hcopy'.file content).mp hmoved.copy,
        fun hnode => hmoved.other ((hplace'.file content).mpr hnode), hmoved.place, hmoved.gone⟩
  · intro location hne
    refine (h.untouched location fun result hmem => ?_).trans
      (h'.untouched location fun result hmem => ?_)
    · exact hne result (List.mem_append_left _ hmem)
    · exact hne result (List.mem_append_right _ hmem)

/-- The places outside of the staging directory are untouched exactly if nothing was written. -/
theorem untouched_iff (h : Record s out before after first)
    (hplace : ∀ result ∈ first, Placeable s out result.1) :
    (∀ location, ¬ s.location <+: location → Untouched before after location)
      ↔ ∀ result ∈ first, result.2 = .unchanged := by
  constructor
  · intro huntouched result hmem
    by_contra hresult
    have hwritten : result.2 = .written := by
      cases hkind : result.2 with
      | written => rfl
      | unchanged => exact absurd hkind hresult
    obtain ⟨content, hmoved⟩ := h.moved result hmem hwritten
    have hplace' := huntouched _ (hplace result hmem).outside
    exact hmoved.other ((hplace'.file content).mp hmoved.place)
  · intro hunchanged location _
    refine h.untouched location fun result hmem hwritten => ?_
    rw [hunchanged result hmem] at hwritten
    cases hwritten

end Record

/-! ## One file -/

/-- What can be told of moving one file that went well. -/
theorem record_commitFile (h : Underway s base output out fs) (hfile : Placeable s out file)
    {result : WriteResult} (hcommit : s.commitFile output file fs = .ok result fs') :
    Underway s base output out fs' ∧ Record s out fs fs' [(file, result)] := by
  obtain ⟨-, rfl, rfl⟩ | ⟨hmissing, rfl, grown, hgrows, hrename⟩ := commitFile_cases hcommit
  · refine ⟨h, ?_, fun location _ => Untouched.of_eq rfl⟩
    rintro result hmem hwritten
    rw [List.mem_singleton.mp hmem] at hwritten
    cases hwritten
  · have hgrown := h.grow hgrows
    obtain ⟨content, hold, hmoves, hmoved, -⟩ := hgrown.moves hfile.below hrename
    have hapart : out ++ parts file ≠ s.location ++ parts file :=
      fun heq => hfile.outside (heq ▸ List.prefix_append _ _)
    have hcopy := hgrows.file_iff.mp hold
    refine ⟨hmoved, ?_, ?_⟩
    · intro result hmem _
      rw [List.mem_singleton.mp hmem]
      refine ⟨content, hcopy, fun hnode => ?_, ?_, fun content' => ?_⟩
      · -- had it stood there, it would have been left alone
        have hread := h.read_place hgrown hfile.below hrename hnode
        exact hmissing ((sameContent_iff (h.read_copy hgrown hfile.below hrename hcopy) _).mpr
          hread)
      · rw [hmoves.nodes, if_pos rfl]
      · rw [hmoves.nodes, if_neg hapart.symm, if_pos rfl]
        simp
    · intro location hne
      obtain ⟨hplace, hsource⟩ := hne _ List.mem_cons_self rfl
      refine (Untouched.of_grows hgrows location).trans (Untouched.of_eq ?_)
      rw [hmoves.nodes, if_neg hplace, if_neg hsource]

/-- A move that fails adds directories at most. -/
lemma grows_of_commitFile {failure : Failure}
    (h : s.commitFile output file fs = .error failure fs') : Grows fs fs' := by
  simp only [Staging.commitFile] at h
  split at h
  · cases h
  · split at h
    · rename_i hcreate
      cases h
      exact grows_of_createDirectories hcreate
    · rename_i hcreate
      split at h
      · cases h
      · cases h
        exact grows_of_createDirectories hcreate

/-! ## All files -/

theorem record_commitFiles (h : Underway s base output out fs) {files : List String}
    (hplace : ∀ file ∈ files, Placeable s out file)
    (hcommit : s.commitFiles output files fs = .ok first fs') :
    Underway s base output out fs' ∧ Record s out fs fs' first := by
  induction files generalizing fs first with
  | nil =>
      obtain ⟨rfl, rfl⟩ := Step.pure_eq_ok.mp hcommit
      exact ⟨h, Record.of_grows (Grows.refl fs)⟩
  | cons file files ih =>
      rw [List.forall_mem_cons] at hplace
      have hpaths := map_fst_of_commitFiles hcommit
      obtain ⟨result, next, hfirst, hcommit⟩ := Step.bind_eq_ok.mp hcommit
      obtain ⟨rest, last, hrest, hcommit⟩ := Step.bind_eq_ok.mp hcommit
      obtain ⟨rfl, rfl⟩ := Step.pure_eq_ok.mp hcommit
      obtain ⟨hnext, hone⟩ := record_commitFile h hplace.1 hfirst
      obtain ⟨hlast, hothers⟩ := ih hnext hplace.2 hrest
      refine ⟨hlast, hone.append hothers fun entry hmem => ?_⟩
      have hpath : entry.1 ∈ file :: files := hpaths ▸ List.mem_map_of_mem hmem
      rcases List.mem_cons.mp hpath with heq | hmem
      · exact heq ▸ hplace.1
      · exact hplace.2 _ hmem

/-- Up to the file that cannot be moved all went well, and the files behind it are not looked at. -/
lemma exists_of_commitFiles_error {files : List String} {failure : Failure}
    (h : s.commitFiles output files fs = .error failure fs') :
    ∃ done file rest results middle, files = done ++ file :: rest
      ∧ s.commitFiles output done fs = .ok results middle
      ∧ s.commitFile output file middle = .error failure fs' := by
  induction files generalizing fs with
  | nil => cases h
  | cons file files ih =>
      rcases Step.bind_eq_error.mp h with hfailed | ⟨result, next, hfirst, hrest⟩
      · exact ⟨[], file, files, [], fs, rfl, rfl, hfailed⟩
      · rcases Step.bind_eq_error.mp hrest with hfailed | ⟨_, _, _, hpure⟩
        · obtain ⟨done, last, rest, results, middle, rfl, hdone, hlast⟩ := ih hfailed
          refine ⟨file :: done, last, rest, (file, result) :: results, middle, rfl, ?_, hlast⟩
          exact Step.bind_eq_ok.mpr ⟨result, next, hfirst,
            Step.bind_eq_ok.mpr ⟨results, middle, hdone, rfl⟩⟩
        · cases hpure

/-- The files before the one that failed stay where they were moved to. -/
lemma record_of_commitFiles_error (h : Underway s base output out fs) {files : List String}
    (hplace : ∀ file ∈ files, Placeable s out file) {failure : Failure}
    (hcommit : s.commitFiles output files fs = .error failure fs') :
    ∃ done file rest results middle, files = done ++ file :: rest
      ∧ s.commitFiles output done fs = .ok results middle
      ∧ s.commitFile output file middle = .error failure fs'
      ∧ (∀ result ∈ results, Placeable s out result.1) ∧ Record s out fs fs' results := by
  obtain ⟨done, file, rest, results, middle, hfiles, hdone, hfailed⟩ :=
    exists_of_commitFiles_error hcommit
  rw [hfiles] at hplace
  have hplaceable : ∀ file ∈ done, Placeable s out file :=
    fun file hfile => hplace file (List.mem_append_left _ hfile)
  have hresults : ∀ result ∈ results, Placeable s out result.1 := by
    intro result hmem
    refine hplaceable _ ?_
    rw [← map_fst_of_commitFiles hdone]
    exact List.mem_map_of_mem hmem
  obtain ⟨-, hrecord⟩ := record_commitFiles h hplaceable hdone
  have hwhole := hrecord.append (Record.of_grows (grows_of_commitFile hfailed))
    (by rwa [List.append_nil])
  rw [List.append_nil] at hwhole
  exact ⟨done, file, rest, results, middle, hfiles, hdone, hfailed, hresults, hwhole⟩

/-! ## Whole sessions -/

/-- Stages files, one after the other. -/
def stageAll : List Delivery → Staging → Step FileSystem Staging
  | [], s => pure s
  | file :: rest, s => s.stage file.1 file.2 >>= stageAll rest

lemma stageAll_spec {files : List Delivery} {staged : List String} {s' : Staging}
    (h : Contained s base output out fs) (hbelow : ∀ file ∈ files, IsBelow file.1)
    (hstage : stageAll files { s with staged } fs = .ok s' fs') :
    s' = { s with staged := staged ++ files.map Prod.fst } ∧ Contained s base output out fs' := by
  induction files generalizing staged fs with
  | nil =>
      obtain ⟨rfl, rfl⟩ := Step.pure_eq_ok.mp hstage
      simpa using h
  | cons file files ih =>
      rw [List.forall_mem_cons] at hbelow
      obtain ⟨next, middle, hfirst, hrest⟩ := Step.bind_eq_ok.mp hstage
      have hmiddle := (keeps_stage hbelow.1 staged file.2).of_eq_ok hfirst h
      rw [eq_of_stage hfirst] at hrest
      obtain ⟨rfl, hlast⟩ := ih hmiddle hbelow.2 hrest
      exact ⟨by simp, hlast⟩

/-- **A commit that fails.**  The files are moved up to one that cannot be moved, and those that
were written stay where they are.  So no file came or went outside of the staging directory exactly
if none had been written. -/
theorem commit_interrupted {naming : Naming} {files : List Delivery} {opened ready : FileSystem}
    {s' : Staging} {failure : Failure} (hwf : fs.WellFormed) (hnaming : naming.Fresh)
    (hpaths : ∀ file ∈ files, IsBelow file.1 ∧ naming.Avoids file.1)
    (hopen : createNamed naming output fs = .ok s opened)
    (hstage : stageAll files s opened = .ok s' ready)
    (hcommit : s'.commit output ready = .error failure after) :
    ∃ out done file rest results middle, ready.Reaches output out
      ∧ files.map Prod.fst = done ++ file :: rest
      ∧ s.commitFiles output done ready = .ok results middle
      ∧ s.commitFile output file middle = .error failure after
      ∧ Record s out ready after results
      ∧ ((∀ location, ¬ s.location <+: location → Untouched ready after location)
          ↔ ∀ result ∈ results, result.2 = .unchanged) := by
  obtain ⟨base, out, -, hstaged, hlocation, hbegin⟩ := Contained.begin hwf hnaming hopen
  have hempty : s = { s with staged := [] } := by rw [← hstaged]
  rw [hempty] at hstage
  obtain ⟨rfl, hready⟩ := stageAll_spec hbegin (fun file hfile => (hpaths file hfile).1) hstage
  rw [Staging.commit, List.nil_append, commitFiles_staged] at hcommit
  have hplace : ∀ file ∈ files.map Prod.fst, Placeable s out file := by
    intro path hpath
    obtain ⟨file, hfile, rfl⟩ := List.mem_map.mp hpath
    exact placeable_of_avoids (hpaths file hfile).1 (hpaths file hfile).2 hlocation
  obtain ⟨done, file, rest, results, middle, hfiles, hdone, hfailed, hresults, hrecord⟩ :=
    record_of_commitFiles_error hready.toUnderway hplace hcommit
  exact ⟨out, done, file, rest, results, middle, hready.reaches, hfiles, hdone, hfailed, hrecord,
    hrecord.untouched_iff hresults⟩

/-- An output directory where something stands in the way of a file. -/
def blockedOutput : FileSystem :=
  (({} : FileSystem).put ["out"] .directory).put ["out", "b"] .directory

/-- Two files, the second of which cannot be moved there. -/
def blockedFiles : List Delivery := [("a", "1"), ("b", "2")]

lemma exists_blocked : ∃ s opened s' ready failure after,
    createNamed freshName "out" blockedOutput = .ok s opened
      ∧ stageAll blockedFiles s opened = .ok s' ready
      ∧ s'.commit "out" ready = .error failure after ∧ ready.Reaches "out" ["out"]
      ∧ ¬ s.location <+: ["out", "a"] ∧ ready.nodeAt? ["out", "a"] = none
      ∧ after.nodeAt? ["out", "a"] = some (.file "1".toUTF8) := by
  have hruns : (match createNamed freshName "out" blockedOutput with
      | .error _ _ => false
      | .ok s opened =>
        match stageAll blockedFiles s opened with
        | .error _ _ => false
        | .ok s' ready =>
          match s'.commit "out" ready with
          | .ok _ _ => false
          | .error _ after =>
            ready.walk (ready.startOf "out") (steps "out") = .ok ["out"]
              && !s.location.isPrefixOf ["out", "a"] && ready.nodeAt? ["out", "a"] = none
              && after.nodeAt? ["out", "a"] = some (.file "1".toUTF8)) = true := by
    decide +kernel
  split at hruns
  · cases hruns
  · rename_i s opened hopen
    split at hruns
    · cases hruns
    · rename_i s' ready hstage
      split at hruns
      · cases hruns
      · rename_i failure after hcommit
        simp only [Bool.and_eq_true, Bool.not_eq_true', decide_eq_true_eq] at hruns
        refine ⟨s, opened, s', ready, failure, after, hopen, hstage, hcommit, hruns.1.1.1, ?_,
          hruns.1.2, hruns.2⟩
        rw [← List.isPrefixOf_iff_prefix, hruns.1.1.2]
        decide

lemma wellFormed_blockedOutput : blockedOutput.WellFormed :=
  wellFormed_entry (by decide) (by decide) _

lemma isBelow_blockedFiles : ∀ file ∈ blockedFiles, IsBelow file.1 := by decide

/-- A commit that fails may leave a file in the output directory that was not there. -/
theorem commit_not_atomic :
    ¬ ∀ (files : List Delivery) (fs opened ready after : FileSystem) (s s' : Staging)
        (output : String) (out : Location) (failure : Failure), fs.WellFormed →
        (∀ file ∈ files, IsBelow file.1) →
        createNamed freshName output fs = .ok s opened → stageAll files s opened = .ok s' ready →
        s'.commit output ready = .error failure after → ready.Reaches output out →
        ∀ location, out <+: location → ¬ s.location <+: location →
          Untouched ready after location := by
  intro h
  obtain ⟨s, opened, s', ready, failure, after, hopen, hstage, hcommit, hreaches, houtside, hnone,
    hfile⟩ := exists_blocked
  have huntouched := h _ _ _ _ _ _ _ _ _ _ wellFormed_blockedOutput isBelow_blockedFiles hopen
    hstage hcommit hreaches ["out", "a"] ⟨["a"], rfl⟩ houtside
  rw [(huntouched.file _).mp hfile] at hnone
  cases hnone

theorem commit_interrupted_blocked :
    ∃ s s' opened ready failure after out done file rest results middle,
      createNamed freshName "out" blockedOutput = .ok s opened
      ∧ stageAll blockedFiles s opened = .ok s' ready
      ∧ s'.commit "out" ready = .error failure after ∧ ready.Reaches "out" out
      ∧ blockedFiles.map Prod.fst = done ++ file :: rest
      ∧ s.commitFiles "out" done ready = .ok results middle
      ∧ s.commitFile "out" file middle = .error failure after
      ∧ Record s out ready after results
      ∧ ((∀ location, ¬ s.location <+: location → Untouched ready after location)
          ↔ ∀ result ∈ results, result.2 = .unchanged) := by
  obtain ⟨s, opened, s', ready, failure, after, hopen, hstage, hcommit, -⟩ := exists_blocked
  have hdots : ∀ file ∈ blockedFiles,
      (parts file.1).head?.bind (fun name => name.toList.head?) ≠ some '.' := by decide
  have hpaths : ∀ file ∈ blockedFiles, IsBelow file.1 ∧ Naming.Avoids freshName file.1 :=
    fun file hfile => ⟨isBelow_blockedFiles file hfile, avoids_freshName (hdots file hfile)⟩
  obtain ⟨out, done, file, rest, results, middle, hparts⟩ :=
    commit_interrupted wellFormed_blockedOutput fresh_freshName hpaths hopen hstage hcommit
  exact ⟨s, s', opened, ready, failure, after, out, done, file, rest, results, middle, hopen,
    hstage, hcommit, hparts⟩

end ClassBridge.Staging
