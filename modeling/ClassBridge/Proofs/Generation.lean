import ClassBridge.Artifact.Emitter
import ClassBridge.Generator
import ClassBridge.Proofs.Pipeline.Outcome
import ClassBridge.Proofs.Staging.Commit

/-!
# What a generation leaves behind

A generation and a preview render the same artifacts.  The generation also asks the translator,
which reads the staged copy of the header, and then puts every file in place.

The steps of a generation are followed one by one: artifacts are staged in their order
(`stageArtifacts_spec`), then the raw bindings (`stageRaw_spec`), and then all of them are moved.
-/

namespace ClassBridge

open ClassBridge.Path FileSystem Staging

/-! ## What is wanted -/

/-- What a translator makes of a header depends on the content of the header and on the settings
alone; there is nothing if it fails. -/
def Translator.Follows {σ : Type} (t : Translator σ)
    (f : ByteArray → TranslatorFlags → Option String) : Prop :=
  ∀ files header content flags journal, files.read header = .ok content →
    (t.translate files header flags journal).1.toOption = f content flags

/-- File names that lead to different places below the output directory. -/
structure OutputNames.Apart (names : OutputNames) : Prop where
  below : ∀ kind : ArtifactKind, IsBelow (kind.fileName names)
  distinct : Function.Injective fun kind : ArtifactKind => parts (kind.fileName names)

/-- An artifact as a file to deliver. -/
def Artifact.delivery (artifact : Artifact) : Delivery := (artifact.path, artifact.content)

/-- The last native header among artifacts. -/
def Artifact.header? (artifacts : List Artifact) : Option Artifact :=
  (artifacts.filter fun artifact => artifact.kind = .nativeHeader).getLast?

namespace Generator

variable {σ : Type}

/-- The files that belong to artifacts: they themselves, and what the translator makes of the header
if there is one at work. -/
def deliveries (g : Generator σ) (f : ByteArray → TranslatorFlags → Option String)
    (artifacts : List Artifact) : Option (List Delivery) :=
  match g.activeTranslator with
  | none => some (artifacts.map Artifact.delivery)
  | some _ => do
    let header ← Artifact.header? artifacts
    let raw ← f header.content.toUTF8 g.manifest.raw.flags
    return artifacts.map Artifact.delivery ++ [(g.manifest.output.raw, raw)]

end Generator

/-! ## Steps of a workshop -/

lemma Step.onFiles_eq_ok {σ α : Type} {step : Step FileSystem α} {w w' : Workshop σ} {a : α} :
    step.onFiles w = .ok a w' ↔ ∃ files, step w.files = .ok a files ∧ w' = { w with files } := by
  unfold Step.onFiles
  cases step w.files with
  | ok value files =>
      constructor
      · intro h
        cases h
        exact ⟨files, rfl, rfl⟩
      · rintro ⟨_, hvalue, rfl⟩
        cases hvalue
        rfl
  | error failure files => simp

namespace Generator

variable {σ : Type} {g : Generator σ} {w w' : Workshop σ}

/-- The default pipeline leaves the workshop alone. -/
lemma eq_of_compile (hpipeline : g.pipeline = {}) {compiled : Model × List Diagnostic}
    (h : g.compile w = .ok compiled w') : w' = w := by
  rw [compile_default hpipeline] at h
  split at h
  · cases h
    rfl
  · cases h

/-! ## Staging -/

variable {s s' : Staging} {base fs fs' : FileSystem} {output : String} {out : Location}
  {waiting : List Delivery}

lemma header?_cons (artifact : Artifact) (rest : List Artifact) :
    Artifact.header? (artifact :: rest)
      = (Artifact.header? rest).or
        (if artifact.kind = .nativeHeader then some artifact else none) := by
  unfold Artifact.header?
  by_cases hkind : artifact.kind = .nativeHeader
  · rw [List.filter_cons_of_pos (by simpa using hkind), List.getLast?_cons, if_pos hkind]
    cases (rest.filter fun artifact => artifact.kind = .nativeHeader).getLast? <;> rfl
  · rw [List.filter_cons_of_neg (by simpa using hkind), if_neg hkind, Option.or_none]

/-- Which files are staged, and which of them is taken for the header. -/
lemma stageArtifacts_eq_ok {artifacts : List Artifact} {staged : List String}
    {header header' : Option String}
    (h : stageArtifacts artifacts { s with staged } header fs = .ok (s', header') fs') :
    s' = { s with staged := staged ++ artifacts.map Artifact.path }
      ∧ header' = ((Artifact.header? artifacts).map fun found => s.pathOf found.path).or
        header := by
  induction artifacts generalizing staged header fs with
  | nil =>
      obtain ⟨hstaging, -⟩ := Step.pure_eq_ok.mp h
      cases hstaging
      simp [Artifact.header?]
  | cons artifact rest ih =>
      obtain ⟨middle, next, hfirst, hrest⟩ := Step.bind_eq_ok.mp h
      rw [eq_of_stage hfirst] at hrest
      obtain ⟨rfl, rfl⟩ := ih hrest
      refine ⟨by simp, ?_⟩
      rw [header?_cons]
      cases Artifact.header? rest with
      | some found => rfl
      | none =>
          by_cases hkind : artifact.kind = .nativeHeader
          · rw [if_pos hkind, if_pos hkind]
            rfl
          · rw [if_neg hkind, if_neg hkind]
            rfl

/-- Artifacts are staged in their order. -/
theorem stageArtifacts_spec {artifacts : List Artifact} {staged : List String}
    {header header' : Option String} (h : Progress s base output out [] waiting fs)
    (hplace : ∀ artifact ∈ artifacts, Placeable s out artifact.path)
    (hdistinct : ((waiting ++ artifacts.map Artifact.delivery).map fun file => parts file.1).Nodup)
    (hstage : stageArtifacts artifacts { s with staged } header fs = .ok (s', header') fs') :
    Progress s base output out [] (waiting ++ artifacts.map Artifact.delivery) fs' := by
  induction artifacts generalizing waiting staged header fs with
  | nil =>
      obtain ⟨-, rfl⟩ := Step.pure_eq_ok.mp hstage
      simpa using h
  | cons artifact rest ih =>
      rw [stageArtifacts] at hstage
      obtain ⟨middle, next, hfirst, hrest⟩ := Step.bind_eq_ok.mp hstage
      rw [List.map_cons] at hdistinct ⊢
      have hnew : ∀ other ∈ waiting, parts other.1 ≠ parts artifact.delivery.1 :=
        fun other hother => parts_ne_of_nodup hdistinct other (List.mem_append_left _ hother)
      have hnext := h.stage artifact.delivery (hplace artifact List.mem_cons_self) hnew hfirst
      rw [eq_of_stage hfirst] at hrest
      rw [List.append_cons] at hdistinct ⊢
      exact ih hnext (fun other hother => hplace other (List.mem_cons_of_mem _ hother)) hdistinct
        hrest

lemma mem_of_header? {artifacts : List Artifact} {header : Artifact}
    (h : Artifact.header? artifacts = some header) : header ∈ artifacts :=
  (List.mem_filter.mp (List.mem_of_getLast? h)).1

/-- A translator touches no files. -/
lemma made_of_translate {t : Translator σ} {header raw : String} {flags : TranslatorFlags}
    (h : translate t header flags w = .ok raw w') :
    (t.translate w.files header flags w.journal).1 = .ok raw ∧ w'.files = w.files := by
  unfold translate at h
  split at h
  · rename_i made journal htranslate
    cases h
    rw [htranslate]
    exact ⟨rfl, rfl⟩
  · cases h

lemma follows_of_active {f : ByteArray → TranslatorFlags → Option String}
    (htranslator : ∀ t, g.translator = some t → t.Follows f) {t : Translator σ}
    (hactive : g.activeTranslator = some t) : t.Follows f := by
  refine htranslator t ?_
  unfold activeTranslator at hactive
  split at hactive
  · exact hactive
  · cases hactive

/-- The raw bindings are made of the staged copy of the header, and staged behind the artifacts. -/
theorem stageRaw_spec {f : ByteArray → TranslatorFlags → Option String}
    (htranslator : ∀ t, g.translator = some t → t.Follows f) {artifacts : List Artifact}
    (h : Progress s base output out [] (artifacts.map Artifact.delivery) w.files)
    (hplace : Placeable s out g.manifest.output.raw)
    (hnew : ∀ artifact ∈ artifacts, parts artifact.path ≠ parts g.manifest.output.raw)
    (hstage : g.stageRaw { s with staged := artifacts.map Artifact.path }
      ((Artifact.header? artifacts).map fun header => s.pathOf header.path) w = .ok s' w') :
    ∃ files, g.deliveries f artifacts = some files
      ∧ s' = { s with staged := files.map Prod.fst }
      ∧ Progress s base output out [] files w'.files := by
  unfold stageRaw at hstage
  unfold deliveries
  cases hactive : g.activeTranslator with
  | none =>
      rw [hactive] at hstage
      obtain ⟨rfl, rfl⟩ := Step.pure_eq_ok.mp hstage
      exact ⟨_, rfl, by simp [Artifact.delivery, Function.comp_def], h⟩
  | some t =>
      have ht := follows_of_active htranslator hactive
      rw [hactive] at hstage
      cases hheader : Artifact.header? artifacts with
      | none =>
          rw [hheader] at hstage
          cases hstage
      | some header =>
          rw [hheader] at hstage
          obtain ⟨raw, translated, htranslate, hraw⟩ := Step.bind_eq_ok.mp hstage
          obtain ⟨hmade, hfiles⟩ := made_of_translate htranslate
          obtain ⟨files, hstaged, rfl⟩ := Step.onFiles_eq_ok.mp hraw
          have hcopy : w.files.read (s.pathOf header.path) = .ok header.content.toUTF8 :=
            h.copies header.delivery (List.mem_map_of_mem (mem_of_header? hheader))
          have hf : f header.content.toUTF8 g.manifest.raw.flags = some raw := by
            rw [← ht _ _ _ _ w.journal hcopy, hmade]
            rfl
          have hothers : ∀ other ∈ artifacts.map Artifact.delivery,
              parts other.1 ≠ parts g.manifest.output.raw := by
            intro other hother
            obtain ⟨artifact, hartifact, rfl⟩ := List.mem_map.mp hother
            exact hnew artifact hartifact
          rw [hfiles] at hstaged
          have hprogress := h.stage (g.manifest.output.raw, raw) hplace hothers hstaged
          refine ⟨_, ?_, ?_, hprogress⟩
          · simp only [Option.bind_eq_bind, Option.bind_some, hf]
            rfl
          · rw [eq_of_stage hstaged]
            simp [Artifact.delivery, Function.comp_def]

/-! ## The whole -/

/-- All files are staged and moved, and the staging directory goes. -/
theorem write_spec {f : ByteArray → TranslatorFlags → Option String}
    (htranslator : ∀ t, g.translator = some t → t.Follows f) (hwf : w.files.WellFormed)
    (hnaming : g.naming.Fresh) {artifacts : List Artifact}
    (hpaths : ∀ path ∈ artifacts.map Artifact.path ++ [g.manifest.output.raw],
      IsBelow path ∧ g.naming.Avoids path)
    (hdistinct : ((artifacts.map Artifact.path ++ [g.manifest.output.raw]).map parts).Nodup)
    {results : List (String × WriteResult)} (hwrite : g.write artifacts output w = .ok results w') :
    ∃ files s opened out, g.deliveries f artifacts = some files
      ∧ Staging.createNamed g.naming output w.files = .ok s opened
      ∧ Delivered s w.files output out files results w'.files := by
  unfold write withStaging at hwrite
  split at hwrite
  · cases hwrite
  · rename_i s w₀ hopen
    obtain ⟨opened, hcreate, rfl⟩ := Step.onFiles_eq_ok.mp hopen
    obtain ⟨base, out, hgrows, hstaged, hlocation, hprogress⟩ :=
      createNamed_spec hwf hnaming hcreate
    have hplace : ∀ path ∈ artifacts.map Artifact.path ++ [g.manifest.output.raw],
        Placeable s out path :=
      fun path hpath => placeable_of_avoids (hpaths path hpath).1 (hpaths path hpath).2 hlocation
    rw [List.map_append, List.nodup_append] at hdistinct
    obtain ⟨hartifacts, -, hothers⟩ := hdistinct
    split at hwrite
    · rename_i value w' hbody
      cases hwrite
      obtain ⟨⟨s₁, header⟩, w₁, hfirst, hbody⟩ := Step.bind_eq_ok.mp hbody
      obtain ⟨s₂, w₂, hraw, hlast⟩ := Step.bind_eq_ok.mp hbody
      obtain ⟨staged, hstage, rfl⟩ := Step.onFiles_eq_ok.mp hfirst
      obtain ⟨moved, hcommit, rfl⟩ := Step.onFiles_eq_ok.mp hlast
      have hempty : s = { s with staged := [] } := by rw [← hstaged]
      rw [hempty] at hstage
      have hwaiting := stageArtifacts_spec hprogress
        (fun artifact hartifact =>
          hplace _ (List.mem_append_left _ (List.mem_map_of_mem hartifact)))
        (by simpa [Artifact.delivery, Function.comp_def] using hartifacts) hstage
      obtain ⟨rfl, rfl⟩ := stageArtifacts_eq_ok hstage
      rw [Option.or_none] at hraw
      have hnew : ∀ artifact ∈ artifacts, parts artifact.path ≠ parts g.manifest.output.raw := by
        intro artifact hartifact
        refine hothers _ ?_ _ (List.mem_map_of_mem List.mem_cons_self)
        exact List.mem_map_of_mem (List.mem_map_of_mem hartifact)
      obtain ⟨files, hfiles, rfl, hall⟩ := stageRaw_spec htranslator hwaiting
        (hplace _ (List.mem_append_right _ List.mem_cons_self)) hnew hraw
      obtain ⟨rfl, hdone⟩ := hall.commitFiles hcommit
      exact ⟨files, s, opened, out, hfiles, hcreate, hdone.discard hwf hgrows⟩
    · cases hwrite

/-- The names of all files that a generation may stage: those that its renderers give them, and that
of the raw bindings. -/
def fileNames (g : Generator σ) : List String :=
  (g.emitter.map fun renderer => renderer.fileName g.manifest.output) ++ [g.manifest.output.raw]

lemma paths_artifacts (g : Generator σ) (model : Model) :
    (g.artifacts model).map Artifact.path ++ [g.manifest.output.raw] = g.fileNames := by
  rw [artifacts, Emitter.artifacts, List.map_map]
  rfl

/-- The standard artifacts and the raw bindings go where their kinds say. -/
lemma fileNames_standard (hemitter : g.emitter = Emitter.standard) :
    g.fileNames = [.nativeHeader, .nativeSource, .foreignGlue, .containerWrapper, .rawBindings].map
      fun kind : ArtifactKind => kind.fileName g.manifest.output := by
  rw [fileNames, hemitter]
  rfl

/-- **A generation delivers what its preview shows.**  With the default pipeline and the standard
artifacts, a generation that succeeds leaves every file of the preview in its place, and with a
translator the raw bindings of the header behind them.  It reports the files in this order, as
unchanged where they stood before, and touches no others; its staging directory is gone. -/
theorem generate_delivers {f : ByteArray → TranslatorFlags → Option String}
    (hpipeline : g.pipeline = {}) (hemitter : g.emitter = Emitter.standard)
    (htranslator : ∀ t, g.translator = some t → t.Follows f) (hnames : g.manifest.output.Apart)
    (hnaming : g.naming.Fresh)
    (havoids : ∀ kind : ArtifactKind, g.naming.Avoids (kind.fileName g.manifest.output))
    (hwf : w.files.WellFormed) {result : Generated} (h : g.generate output w = .ok result w') :
    ∃ preview, g.preview w = .ok preview w ∧ result.warnings = preview.warnings
      ∧ ∃ files s opened out, g.deliveries f preview.artifacts = some files
        ∧ Staging.createNamed g.naming output w.files = .ok s opened
        ∧ Delivered s w.files output out files result.files w'.files := by
  obtain ⟨⟨model, warnings⟩, w₁, hcompile, hrest⟩ := Step.bind_eq_ok.mp h
  obtain ⟨results, w₂, hwrite, hresult⟩ := Step.bind_eq_ok.mp hrest
  obtain ⟨rfl, rfl⟩ := Step.pure_eq_ok.mp hresult
  obtain rfl := eq_of_compile hpipeline hcompile
  refine ⟨⟨g.artifacts model, warnings⟩, ?_, rfl, ?_⟩
  · exact Step.bind_eq_ok.mpr ⟨_, _, hcompile, rfl⟩
  · refine write_spec htranslator hwf hnaming ?_ ?_ hwrite
    · intro path hpath
      rw [paths_artifacts, fileNames_standard hemitter] at hpath
      obtain ⟨kind, -, rfl⟩ := List.mem_map.mp hpath
      exact ⟨hnames.below kind, havoids kind⟩
    · rw [paths_artifacts, fileNames_standard hemitter, List.map_map]
      exact List.Nodup.map hnames.distinct (by decide)

/-- A translator that tells how long the header is. -/
def measuring : Translator Unit where
  name := "measure"
  translate files header _ journal :=
    match files.read header with
    | .ok content => (.ok ("// " ++ toString content.size), journal)
    | .error error => (.error (.notStarted "measure" (.refused error)), journal)

lemma follows_measuring :
    measuring.Follows fun content _ => some ("// " ++ toString content.size) := by
  intro files header content flags journal hread
  simp only [measuring, hread]
  rfl

/-- An empty manifest with that translator. -/
def measuredGenerator : Generator Unit where
  manifest := {}
  emitter := Emitter.standard
  translator := some measuring

/-- An output directory with a file that was generated once. -/
def usedWorkshop : Workshop Unit where
  files := (({} : FileSystem).put ["out"] .directory).put ["out", "ffi.rs"] (.file "// 0".toUTF8)
  journal := ()

theorem generate_delivers_usedWorkshop :
    ∃ result w', measuredGenerator.generate "out" usedWorkshop = .ok result w'
      ∧ ∃ preview, measuredGenerator.preview usedWorkshop = .ok preview usedWorkshop
        ∧ result.warnings = preview.warnings
        ∧ ∃ files s opened out,
          measuredGenerator.deliveries (fun content _ => some ("// " ++ toString content.size))
            preview.artifacts = some files
          ∧ Staging.createNamed freshName "out" usedWorkshop.files = .ok s opened
          ∧ Delivered s usedWorkshop.files "out" out files result.files w'.files := by
  have hruns : (match measuredGenerator.generate "out" usedWorkshop with
      | .ok _ _ => true
      | .error _ _ => false) = true := by decide +kernel
  have hnames : measuredGenerator.manifest.output.Apart := by
    constructor
    · rintro (_ | _ | _ | _ | _) <;> decide
    · rintro (_ | _ | _ | _ | _) (_ | _ | _ | _ | _) h <;> revert h <;> decide
  have havoids : ∀ kind : ArtifactKind,
      Naming.Avoids freshName (kind.fileName measuredGenerator.manifest.output) := by
    rintro (_ | _ | _ | _ | _) <;> exact avoids_freshName (by decide)
  have hwf : usedWorkshop.files.WellFormed := wellFormed_entry (by decide) (by decide) _
  have htranslator : ∀ t, measuredGenerator.translator = some t →
      t.Follows fun content _ => some ("// " ++ toString content.size) := by
    rintro t ht
    cases ht
    exact follows_measuring
  cases hrun : measuredGenerator.generate "out" usedWorkshop with
  | error failure w' =>
      rw [hrun] at hruns
      cases hruns
  | ok result w' =>
      exact ⟨result, w', rfl, generate_delivers rfl rfl htranslator hnames fresh_freshName havoids
        hwf hrun⟩

end Generator

end ClassBridge
