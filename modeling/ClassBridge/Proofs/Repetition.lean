import ClassBridge.Proofs.Abandonment
import ClassBridge.Proofs.Staging.Settled
import ClassBridge.Proofs.Staging.Twins

/-!
# Generating again

A generation that ended well can be run again at once; then it finds every file in its place, says
so, and leaves everything as it was (`generate_again`).  This holds for any names of the artifacts
below the output directory, be they those of the manifest or not, also if several of them go to one
path, and for any files that stood there before the first run.

**Staging again.**  The second run stages the same files with the same contents in a directory of
another name.  It depends on nothing but what is in that directory, so it comes as far as the first
(`prepare_again`); the raw bindings are the same because the header is.

**Finding in place.**  What the first run had staged it left in place (`read_of_commitFiles`), and
the second run has staged nothing else.  So no file is moved, and without its staging directory the
second run leaves what it found (`write_again`).
-/

namespace ClassBridge

open ClassBridge.Path FileSystem Staging

namespace Generator

variable {σ : Type} {g : Generator σ} {w w' v : Workshop σ} {s s' : Staging}
  {base after kept fs fs' fs₁ : FileSystem} {output root name name' : String} {out : Location}
  {staged : List String} {artifacts : List Artifact} {header path : Option String}

/-- The files that are staged for artifacts, in their order. -/
def planned (g : Generator σ) (artifacts : List Artifact) : List String :=
  artifacts.map Artifact.path ++ (g.activeTranslator.map fun _ => g.manifest.output.raw).toList

lemma mem_of_mem_planned {file : String} (h : file ∈ g.planned artifacts) :
    file ∈ artifacts.map Artifact.path ++ [g.manifest.output.raw] := by
  rcases List.mem_append.mp h with hfile | hfile
  · exact List.mem_append_left _ hfile
  · refine List.mem_append_right _ ?_
    cases hactive : g.activeTranslator with
    | none => simp [hactive] at hfile
    | some t => simpa [hactive] using hfile

/-- A write that ends well, step by step. -/
lemma write_eq_ok_iff {results : List (String × WriteResult)} :
    g.write artifacts output w = .ok results w'
      ↔ ∃ s opened staged ready moved, createNamed g.naming output w.files = .ok s opened
        ∧ g.prepare artifacts s { w with files := opened } = .ok staged ready
        ∧ staged.commit output ready.files = .ok results moved
        ∧ w' = { ready with files := s.discard moved } := by
  rw [write_eq]
  unfold withStaging
  constructor
  · intro h
    split at h
    · cases h
    · rename_i s w₁ hopen
      obtain ⟨opened, hcreate, rfl⟩ := Step.onFiles_eq_ok.mp hopen
      split at h
      · rename_i value w₂ hbody
        cases h
        obtain ⟨staged, ready, hprepare, hlast⟩ := Step.bind_eq_ok.mp hbody
        obtain ⟨moved, hcommit, rfl⟩ := Step.onFiles_eq_ok.mp hlast
        exact ⟨s, opened, staged, ready, moved, hcreate, hprepare, hcommit, rfl⟩
      · cases h
  · rintro ⟨s, opened, staged, ready, moved, hcreate, hprepare, hcommit, rfl⟩
    have hbody : (g.prepare artifacts s >>= fun staging => (staging.commit output).onFiles)
        { w with files := opened } = .ok results { ready with files := moved } :=
      Step.bind_eq_ok.mpr ⟨staged, ready, hprepare, Step.onFiles_eq_ok.mpr ⟨moved, hcommit, rfl⟩⟩
    simp only [Step.onFiles_eq_ok.mpr ⟨opened, hcreate, rfl⟩, hbody]

/-! ## What is staged -/

/-- Artifacts are staged, and can be read. -/
lemma staged_stageArtifacts (h : Staged s base output out staged fs)
    (hstage : stageArtifacts artifacts { s with staged } header fs = .ok (s', path) fs') :
    Staged s base output out (staged ++ artifacts.map Artifact.path) fs' := by
  induction artifacts generalizing staged header fs with
  | nil =>
      obtain ⟨-, rfl⟩ := Step.pure_eq_ok.mp hstage
      simpa using h
  | cons artifact rest ih =>
      obtain ⟨middle, next, hfirst, hrest⟩ := Step.bind_eq_ok.mp hstage
      rw [eq_of_stage hfirst] at hrest
      rw [List.map_cons, List.append_cons]
      exact ih (h.stage hfirst) hrest

/-- Then the raw bindings are, if they are wanted. -/
lemma staged_stageRaw (h : Staged s base output out (artifacts.map Artifact.path) w.files)
    (hstage : g.stageRaw { s with staged := artifacts.map Artifact.path } header w = .ok s' w') :
    s' = { s with staged := g.planned artifacts }
      ∧ Staged s base output out (g.planned artifacts) w'.files := by
  unfold stageRaw at hstage
  unfold planned
  cases hactive : g.activeTranslator with
  | none =>
      rw [hactive] at hstage
      obtain ⟨rfl, rfl⟩ := Step.pure_eq_ok.mp hstage
      simpa using h
  | some t =>
      rw [hactive] at hstage
      cases header with
      | none => cases hstage
      | some header =>
          obtain ⟨raw, translated, htranslate, hlast⟩ := Step.bind_eq_ok.mp hstage
          obtain ⟨files, hraw, rfl⟩ := Step.onFiles_eq_ok.mp hlast
          rw [(made_of_translate htranslate).2] at hraw
          exact ⟨eq_of_stage hraw, h.stage hraw⟩

/-- All that is planned is staged before files are moved. -/
theorem staged_prepare (h : Staged s base output out [] w.files)
    (hprepare : g.prepare artifacts { s with staged := [] } w = .ok s' w') :
    s' = { s with staged := g.planned artifacts }
      ∧ Staged s base output out (g.planned artifacts) w'.files := by
  obtain ⟨⟨middle, header⟩, w₁, hfirst, hrest⟩ := Step.bind_eq_ok.mp hprepare
  obtain ⟨files, hstage, rfl⟩ := Step.onFiles_eq_ok.mp hfirst
  have hartifacts := staged_stageArtifacts h hstage
  obtain ⟨rfl, -⟩ := stageArtifacts_eq_ok hstage
  exact staged_stageRaw (w := { w with files }) hartifacts hrest

/-! ## Staging again -/

/-- The artifacts can be staged again. -/
lemma stageArtifacts_again (h : Twin root out name name' kept fs fs')
    (hbelow : ∀ artifact ∈ artifacts, IsBelow artifact.path)
    (hstage : stageArtifacts artifacts (within root out name staged) header fs = .ok (s, path) fs₁)
    (header' : Option String) :
    ∃ s' path' fs₁', stageArtifacts artifacts (within root out name' staged) header' fs'
        = .ok (s', path') fs₁'
      ∧ Twin root out name name' kept fs₁ fs₁' := by
  induction artifacts generalizing staged header header' fs fs' with
  | nil =>
      obtain ⟨-, rfl⟩ := Step.pure_eq_ok.mp hstage
      exact ⟨_, _, fs', rfl, h⟩
  | cons artifact rest ih =>
      rw [List.forall_mem_cons] at hbelow
      obtain ⟨middle, next, hfirst, hrest⟩ := Step.bind_eq_ok.mp hstage
      obtain ⟨next', hfirst', hnext⟩ := h.stage hbelow.1 hfirst
      rw [eq_of_stage (s := within root out name []) hfirst] at hrest
      obtain ⟨s', path', fs₁', hrest', hlast⟩ := ih hnext hbelow.2 hrest _
      exact ⟨s', path', fs₁', Step.bind_eq_ok.mpr ⟨_, next', hfirst', hrest'⟩, hlast⟩

/-- A translator that reads the same header makes the same of it. -/
lemma translate_again {f : ByteArray → TranslatorFlags → Option String} {t : Translator σ}
    (ht : t.Follows f) {file file' raw : String} {flags : TranslatorFlags} {content : ByteArray}
    (hread : w.files.read file = .ok content) (hread' : v.files.read file' = .ok content)
    (h : translate t file flags w = .ok raw w') :
    ∃ journal, translate t file' flags v = .ok raw { v with journal } := by
  have hraw : f content flags = some raw := by
    rw [← ht _ _ _ _ w.journal hread, (made_of_translate h).1]
    rfl
  rw [← ht _ _ _ flags v.journal hread'] at hraw
  unfold translate
  split
  · rename_i made journal htranslate
    rw [htranslate] at hraw
    cases hraw
    exact ⟨journal, rfl⟩
  · rename_i error journal htranslate
    rw [htranslate] at hraw
    cases hraw

/-- So can the raw bindings. -/
lemma stageRaw_again {f : ByteArray → TranslatorFlags → Option String}
    (htranslator : ∀ t, g.translator = some t → t.Follows f)
    (h : Twin root out name name' kept w.files v.files) (hraw : IsBelow g.manifest.output.raw)
    {found : Option String} (hheader : ∀ file, found = some file → IsBelow file
      ∧ ∃ content, w.files.read ((within root out name []).pathOf file) = .ok content)
    (hstage : g.stageRaw (within root out name staged)
      (found.map (within root out name []).pathOf) w = .ok s w') :
    ∃ s' v', g.stageRaw (within root out name' staged)
        (found.map (within root out name' []).pathOf) v = .ok s' v'
      ∧ Twin root out name name' kept w'.files v'.files := by
  unfold stageRaw at hstage ⊢
  cases hactive : g.activeTranslator with
  | none =>
      rw [hactive] at hstage
      obtain ⟨-, rfl⟩ := Step.pure_eq_ok.mp hstage
      exact ⟨_, v, rfl, h⟩
  | some t =>
      rw [hactive] at hstage
      cases found with
      | none => cases hstage
      | some file =>
          obtain ⟨raw, translated, htranslate, hlast⟩ := Step.bind_eq_ok.mp hstage
          obtain ⟨files, hstaged, rfl⟩ := Step.onFiles_eq_ok.mp hlast
          obtain ⟨hbelow, content, hread⟩ := hheader file rfl
          obtain ⟨journal, htranslate'⟩ :=
            translate_again (follows_of_active htranslator hactive) hread (h.read hbelow [] hread)
              htranslate
          rw [(made_of_translate htranslate).2] at hstaged
          obtain ⟨files', hstaged', hlast⟩ := h.stage hraw hstaged
          refine ⟨within root out name' (staged ++ [g.manifest.output.raw]),
            { files := files', journal }, ?_, hlast⟩
          refine Step.bind_eq_ok.mpr ⟨raw, _, htranslate', ?_⟩
          exact Step.onFiles_eq_ok.mpr ⟨files', hstaged', rfl⟩

/-- All that is planned can be staged again. -/
theorem prepare_again {f : ByteArray → TranslatorFlags → Option String}
    (htranslator : ∀ t, g.translator = some t → t.Follows f)
    (h : Twin root out name name' kept w.files v.files)
    (hsession : Staged (within root out name []) base output out [] w.files)
    (hbelow : ∀ artifact ∈ artifacts, IsBelow artifact.path) (hraw : IsBelow g.manifest.output.raw)
    (hprepare : g.prepare artifacts (within root out name []) w = .ok s w') :
    ∃ s' v', g.prepare artifacts (within root out name' []) v = .ok s' v'
      ∧ Twin root out name name' kept w'.files v'.files := by
  obtain ⟨⟨middle, header⟩, w₁, hfirst, hrest⟩ := Step.bind_eq_ok.mp hprepare
  obtain ⟨files, hstage, rfl⟩ := Step.onFiles_eq_ok.mp hfirst
  obtain ⟨middle', header', files', hstage', hmiddle⟩ := stageArtifacts_again h hbelow hstage none
  have hartifacts := staged_stageArtifacts hsession hstage
  obtain ⟨rfl, rfl⟩ := stageArtifacts_eq_ok (s := within root out name []) hstage
  obtain ⟨rfl, rfl⟩ := stageArtifacts_eq_ok (s := within root out name' []) hstage'
  have hheader : ∀ file, (Artifact.header? artifacts).map Artifact.path = some file → IsBelow file
      ∧ ∃ content, files.read ((within root out name []).pathOf file) = .ok content := by
    intro file hfile
    obtain ⟨artifact, hartifact, rfl⟩ := Option.map_eq_some_iff.mp hfile
    have hmem := mem_of_header? hartifact
    exact ⟨hbelow artifact hmem, hartifacts.copies _ (List.mem_map_of_mem hmem)⟩
  have hpaths : ∀ entry, ((Artifact.header? artifacts).map fun found =>
      (within root out entry []).pathOf found.path).or none
        = ((Artifact.header? artifacts).map Artifact.path).map
          (within root out entry []).pathOf := by
    intro entry
    rw [Option.or_none, Option.map_map]
    rfl
  rw [hpaths] at hrest hstage'
  obtain ⟨s', v', hrest', hlast⟩ := stageRaw_again (w := { w with files })
    (v := { v with files := files' }) htranslator hmiddle hraw hheader hrest
  refine ⟨s', v', Step.bind_eq_ok.mpr ⟨(_, _), _, ?_, hrest'⟩, hlast⟩
  exact Step.onFiles_eq_ok.mpr ⟨files', hstage', rfl⟩

/-! ## Finding in place -/

/-- A write that ended well: what it had staged, and that all of it is in place afterwards. -/
structure Wrote (g : Generator σ) (artifacts : List Artifact) (output root : String)
    (out : Location) (name : String) (base : FileSystem) (w ready : Workshop σ)
    (after : FileSystem) : Prop where
  prepared : g.prepare artifacts (within root out name [])
    { w with files := base.put (out ++ [name]) .directory }
      = .ok (within root out name (g.planned artifacts)) ready
  opening : Staged (within root out name []) base output out []
    (base.put (out ++ [name]) .directory)
  staged : Staged (within root out name []) base output out (g.planned artifacts) ready.files
  wellFormed : after.WellFormed
  current : after.current = base.current
  stay : DirectoriesStay base after
  reads : ∀ file ∈ g.planned artifacts, ∀ content,
    ready.files.read ((within root out name []).pathOf file) = .ok content →
      after.read (join output file) = .ok content

theorem wrote_of_write (hwf : w.files.WellFormed) (hnaming : g.naming.Fresh)
    (hpaths : ∀ path ∈ artifacts.map Artifact.path ++ [g.manifest.output.raw],
      IsBelow path ∧ g.naming.Avoids path)
    {results : List (String × WriteResult)} (h : g.write artifacts output w = .ok results w') :
    ∃ base out ready, w.files.createDirectories output = (none, base) ∧ base.WellFormed
      ∧ base.find (absolutePath base output) = .ok (out, .directory)
      ∧ results.map Prod.fst = g.planned artifacts
      ∧ g.Wrote artifacts output (absolutePath base output) out (g.naming base out) base w ready
        w'.files := by
  obtain ⟨s, opened, s₁, ready, moved, hopen, hprepare, hcommit, rfl⟩ := write_eq_ok_iff.mp h
  obtain ⟨base, out, hcreate, hfind, rfl, rfl⟩ := createNamed_eq_ok_iff.mp hopen
  have hbase : base.WellFormed := (grows_of_createDirectories hcreate).wellFormed hwf
  have hroot := reaches_of_find hfind
  have hbegin := contained_within hbase (reaches_of_reaches_absolutePath hbase hroot) hroot
    (hnaming.plain base out) (hnaming.free base out) []
  have hopening : Staged _ base output out [] _ := ⟨hbegin.toUnderway, by simp⟩
  obtain ⟨rfl, hstaged⟩ := staged_prepare (w := { w with files := base.put _ .directory }) hopening
    hprepare
  rw [Staging.commit, commitFiles_staged] at hcommit
  obtain ⟨hmoved, hreads⟩ := read_of_commitFiles hstaged.toUnderway
    (fun file hfile => placeable_of_avoids (hpaths file (mem_of_mem_planned hfile)).1
      (hpaths file (mem_of_mem_planned hfile)).2 rfl) hcommit
  refine ⟨base, out, ready, hcreate, hbase, hfind, map_fst_of_commitFiles hcommit, ?_⟩
  exact {
    prepared := hprepare
    opening := hopening
    staged := hstaged
    wellFormed := hmoved.wellFormed_discard
    current := hmoved.current_discard
    stay := hmoved.stay_discard
    reads := hreads }

/-- Another session that stages the same where it is in place. -/
theorem Wrote.again {f : ByteArray → TranslatorFlags → Option String} {ready : Workshop σ}
    (h : g.Wrote artifacts output root out name base w ready after)
    (htranslator : ∀ t, g.translator = some t → t.Follows f)
    (hbelow : ∀ path ∈ artifacts.map Artifact.path ++ [g.manifest.output.raw], IsBelow path)
    (hroot : base.Reaches root out) (hplain : IsEntryName name) (hplain' : IsEntryName name')
    (hstands : StandsFor name' name) (hfree : after.nodeAt? (out ++ [name']) = none)
    (hplace : ∀ file ∈ g.planned artifacts, Placeable (within root out name' []) out file)
    (journal : σ) :
    ∃ ready', g.prepare artifacts (within root out name' [])
        ⟨after.put (out ++ [name']) .directory, journal⟩
          = .ok (within root out name' (g.planned artifacts)) ready'
      ∧ (∀ file ∈ g.planned artifacts, sameContent ready'.files
          ((within root out name' (g.planned artifacts)).pathOf file) (join output file) = true)
      ∧ (within root out name' []).discard ready'.files = after := by
  have hartifacts : ∀ artifact ∈ artifacts, IsBelow artifact.path := fun artifact hartifact =>
    hbelow _ (List.mem_append_left _ (List.mem_map_of_mem hartifact))
  have hraw : IsBelow g.manifest.output.raw :=
    hbelow _ (List.mem_append_right _ List.mem_cons_self)
  have hopened := h.opening.opened
  have hroot' := hroot.mono h.stay h.current
  have htwin := Twin.begin hplain hplain' hstands hopened.wellFormed h.wellFormed h.current hroot
    hroot' hopened.free hfree
  have hbegin := contained_within h.wellFormed (hopened.output.mono h.stay h.current) hroot' hplain'
    hfree []
  obtain ⟨s', ready', hprepare, hready⟩ := prepare_again (v := ⟨_, journal⟩) htranslator htwin
    h.opening hartifacts hraw h.prepared
  obtain ⟨rfl, -⟩ := staged_prepare (s := within root out name' []) ⟨hbegin.toUnderway, by simp⟩
    hprepare
  have hcontained := (keeps_prepare g hbelow _).of_eq_ok hprepare hbegin
  refine ⟨ready', hprepare, fun file hfile => ?_, hready.kept⟩
  obtain ⟨content, hread⟩ := h.staged.copies file hfile
  obtain ⟨hfile', houtside⟩ := hplace file hfile
  refine (sameContent_iff (hready.read hfile' [] hread) _).mpr ?_
  -- outside of the second staging directory nothing has changed
  refine read_mono hcontained.stay hcontained.current (h.reads file hfile content hread) ?_
  intro directory last hresolve
  rw [location_of_resolve_join hfile' hcontained.opened.output hresolve,
    hcontained.outside _ houtside]

/-- **A write that ended well, run again.**  All files are found in place, and nothing changes. -/
theorem write_again {f : ByteArray → TranslatorFlags → Option String}
    (htranslator : ∀ t, g.translator = some t → t.Follows f) (hnaming : g.naming.Fresh)
    {again : Naming} (hagain : again.Fresh)
    (hpaths : ∀ path ∈ artifacts.map Artifact.path ++ [g.manifest.output.raw],
      IsBelow path ∧ g.naming.Avoids path ∧ again.Avoids path)
    (hwf : w.files.WellFormed) {results : List (String × WriteResult)}
    (h : g.write artifacts output w = .ok results w')
    (hlike : ∀ out, w'.files.Reaches output out → StandsFor (again w'.files out)
      (g.naming (w.files.createDirectories output).2 out)) :
    ∃ w'', ({ g with naming := again } : Generator σ).write artifacts output w'
        = .ok (results.map fun file => (file.1, .unchanged)) w''
      ∧ w''.files = w'.files := by
  obtain ⟨base, out, ready, hcreate, hbase, hfind, hresults, hwrote⟩ := wrote_of_write hwf hnaming
    (fun path hpath => ⟨(hpaths path hpath).1, (hpaths path hpath).2.1⟩) h
  have hroot := reaches_of_find hfind
  have hopened := hwrote.opening.opened
  rw [hcreate] at hlike
  obtain ⟨ready', hprepare, hsame, hkept⟩ := hwrote.again htranslator
    (fun path hpath => (hpaths path hpath).1) hroot (hnaming.plain base out)
    (hagain.plain w'.files out) (hlike out (hopened.output.mono hwrote.stay hwrote.current))
    (hagain.free w'.files out)
    (fun file hfile => placeable_of_avoids (hpaths file (mem_of_mem_planned hfile)).1
      (hpaths file (mem_of_mem_planned hfile)).2.2 rfl) w'.journal
  have hopen := createNamed_again again hbase
    (fun hne => permitted_of_createDirectories hne hcreate) hfind hwrote.wellFormed hwrote.current
    hwrote.stay
  have hunchanged : results.map (fun file => (file.1, WriteResult.unchanged))
      = (g.planned artifacts).map fun file => (file, .unchanged) := by
    rw [← hresults, List.map_map]
    rfl
  rw [hunchanged]
  refine ⟨_, write_eq_ok_iff.mpr ⟨_, _, _, ready', _, hopen, hprepare, ?_, rfl⟩, hkept⟩
  exact commitFiles_unchanged hsame

/-! ## The whole -/

/-- **A generation that ended well, run again.**  With the default pipeline, any artifacts and any
translator that follows the header, the second run ends well too.  It reports the same files in the
same order, all of them unchanged, and the same warnings, and it leaves the files as it found them.
Paths may agree, renderers may have names of their own for their files, and what stood there before
the first run does not matter.  The staging directory may have another name in the second run, of no
more bytes; this is asked of the two names at hand, since no naming keeps to one length where all
names of that length are taken. -/
theorem generate_again {f : ByteArray → TranslatorFlags → Option String}
    (hpipeline : g.pipeline = {}) (htranslator : ∀ t, g.translator = some t → t.Follows f)
    (hnames : ∀ name ∈ g.fileNames, IsBelow name)
    (hnaming : g.naming.Fresh) {again : Naming} (hagain : again.Fresh)
    (havoids : ∀ name ∈ g.fileNames, g.naming.Avoids name ∧ again.Avoids name)
    (hwf : w.files.WellFormed) {result : Generated} (h : g.generate output w = .ok result w')
    (hlike : ∀ out, w'.files.Reaches output out → StandsFor (again w'.files out)
      (g.naming (w.files.createDirectories output).2 out)) :
    ∃ w'', ({ g with naming := again } : Generator σ).generate output w'
        = .ok ⟨result.files.map fun file => (file.1, .unchanged), result.warnings⟩ w''
      ∧ w''.files = w'.files := by
  obtain ⟨⟨model, warnings⟩, w₁, hcompile, hrest⟩ := Step.bind_eq_ok.mp h
  obtain ⟨results, w₂, hwrite, hresult⟩ := Step.bind_eq_ok.mp hrest
  obtain ⟨rfl, rfl⟩ := Step.pure_eq_ok.mp hresult
  obtain rfl := eq_of_compile hpipeline hcompile
  have hpaths : ∀ path ∈ (g.artifacts model).map Artifact.path ++ [g.manifest.output.raw],
      IsBelow path ∧ g.naming.Avoids path ∧ again.Avoids path := by
    rw [paths_artifacts]
    exact fun name hname => ⟨hnames name hname, havoids name hname⟩
  obtain ⟨w'', hagain', hfiles⟩ := write_again htranslator hnaming hagain hpaths hwf hwrite hlike
  have hcompile' : g.compile w₂ = .ok (model, warnings) w₂ := by
    rw [compile_default hpipeline] at hcompile ⊢
    split at hcompile
    · rename_i hfindings
      cases hcompile
      rw [if_pos hfindings]
    · cases hcompile
  refine ⟨w'', ?_, hfiles⟩
  exact Step.bind_eq_ok.mpr ⟨_, _, hcompile', Step.bind_eq_ok.mpr ⟨_, _, hagain', rfl⟩⟩

/-- A source that has the name of the header for its file, and raw bindings. -/
def sharedGenerator : Generator Unit where
  manifest := {}
  emitter := [
    { kind := .nativeHeader, render := fun _ => "// header" },
    { kind := .nativeSource, render := fun _ => "// source", fileName := OutputNames.header }]
  translator := some measuring

/-- An output directory where the source is in place already; else the second move would fail. -/
def sharedWorkshop : Workshop Unit where
  files := (({} : FileSystem).put ["out"] .directory).put ["out", "ffi.hpp"]
    (.file "// source".toUTF8)
  journal := ()

theorem generate_again_sharedWorkshop :
    ∃ result w' w'', sharedGenerator.generate "out" sharedWorkshop = .ok result w'
      ∧ sharedGenerator.generate "out" w'
        = .ok ⟨result.files.map fun file => (file.1, .unchanged), result.warnings⟩ w''
      ∧ w''.files = w'.files := by
  have hruns : (match sharedGenerator.generate "out" sharedWorkshop with
      | .error _ _ => false
      | .ok _ w' =>
        match w'.files.walk (w'.files.startOf "out") (steps "out") with
        | .error _ => false
        | .ok out => freshName w'.files out
          = freshName (sharedWorkshop.files.createDirectories "out").2 out) = true := by
    decide +kernel
  have hnames : ∀ name ∈ sharedGenerator.fileNames, IsBelow name := by decide
  have hdots : ∀ name ∈ sharedGenerator.fileNames,
      (parts name).head?.bind (fun part => part.toList.head?) ≠ some '.' := by decide
  have havoids : ∀ name ∈ sharedGenerator.fileNames, Naming.Avoids freshName name :=
    fun name hname => avoids_freshName (hdots name hname)
  have htranslator : ∀ t, sharedGenerator.translator = some t →
      t.Follows fun content _ => some ("// " ++ toString content.size) := by
    rintro t ht
    cases ht
    exact follows_measuring
  cases hrun : sharedGenerator.generate "out" sharedWorkshop with
  | error failure w' =>
      rw [hrun] at hruns
      cases hruns
  | ok result w' =>
      simp only [hrun] at hruns
      have hlike : ∀ out, w'.files.Reaches "out" out → StandsFor (freshName w'.files out)
          (freshName (sharedWorkshop.files.createDirectories "out").2 out) := by
        intro out hreaches
        rw [Reaches] at hreaches
        simp only [hreaches, decide_eq_true_eq] at hruns
        rw [← hruns]
        exact ⟨Nat.le_refl _, noNul_freshName _ _⟩
      obtain ⟨w'', hagain, hfiles⟩ := generate_again rfl htranslator hnames fresh_freshName
        fresh_freshName (fun name hname => ⟨havoids name hname, havoids name hname⟩)
        (wellFormed_entry (by decide) (by decide) _) hrun hlike
      exact ⟨result, w', w'', rfl, hagain, hfiles⟩

end Generator

end ClassBridge
