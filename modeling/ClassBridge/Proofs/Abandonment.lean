import ClassBridge.Proofs.Generation
import ClassBridge.Proofs.Staging.Containment

/-!
# What a generation that fails leaves behind

**Before staging.**  Compiling writes no files as long as plugins and further phases write none
(`Pipeline.writesNoFiles_run`), so a generation that fails there changes nothing.

**While staging.**  Artifacts and raw bindings are staged inside the staging directory, wherever
this fails (`keeps_prepare`).  A generation that fails before it moves files removes that directory,
and at most directories on the way to the output directory are left (`generate_abandoned`).
-/

namespace ClassBridge

open ClassBridge.Path FileSystem Staging

/-! ## Pipelines that write no files -/

variable {σ α : Type}

namespace Pipeline

/-- Neither plugins nor further phases write files. -/
structure WritesNoFiles (p : Pipeline σ) : Prop where
  phases : ∀ phase ∈ p.userPhases, phase.run.WritesNoFiles
  before : ∀ plugin ∈ p.plugins, ∀ phase, (plugin.before phase).WritesNoFiles
  after : ∀ plugin ∈ p.plugins, ∀ phase, (plugin.after phase).WritesNoFiles

/-- No part of the pipeline writes files. -/
theorem writesNoFiles_run {p : Pipeline σ} (h : p.WritesNoFiles) : p.run.WritesNoFiles :=
  fun files => Step.keeps_forM fun phase hphase =>
    keeps_runPhase (fun plugin hplugin => h.before plugin hplugin phase.name files)
      (writesNoFiles_of_mem_phases h.phases phase hphase files)
      fun plugin hplugin => h.after plugin hplugin phase.name files

end Pipeline

/-! ## Staging -/

lemma Step.keeps_onFiles {P : FileSystem → Prop} {step : Step FileSystem α}
    (h : Step.Keeps P step) :
    Step.Keeps (fun w : Workshop σ => P w.files) step.onFiles := by
  intro w hw
  unfold Step.onFiles
  split
  · rename_i hok
    exact h.of_eq_ok hok hw
  · rename_i herror
    exact h.of_eq_error herror hw

namespace Generator

variable {g : Generator σ} {w w' : Workshop σ} {s s' : Staging} {base fs fs' : FileSystem}
  {output : String} {out : Location}

/-- All that is done in a staging directory before files are moved. -/
def prepare (g : Generator σ) (artifacts : List Artifact) (staging : Staging) :
    Step (Workshop σ) Staging := do
  let (staging, header) ← (stageArtifacts artifacts staging none).onFiles
  g.stageRaw staging header

lemma write_eq (g : Generator σ) (artifacts : List Artifact) (output : String) :
    g.write artifacts output = withStaging g.naming output (fun staging =>
      g.prepare artifacts staging >>= fun staging => (staging.commit output).onFiles) := by
  simp only [write, prepare, bind_assoc]

/-- Artifacts are staged inside the staging directory. -/
lemma keeps_stageArtifacts {artifacts : List Artifact}
    (hbelow : ∀ artifact ∈ artifacts, IsBelow artifact.path) (staged : List String)
    (header : Option String) :
    Step.Keeps (Contained s base output out)
      (stageArtifacts artifacts { s with staged } header) := by
  induction artifacts generalizing staged header with
  | nil => exact Step.keeps_pure _
  | cons artifact rest ih =>
      rw [List.forall_mem_cons] at hbelow
      rw [stageArtifacts]
      refine (keeps_stage hbelow.1 staged artifact.content).bind ?_
      rintro middle ⟨fs, fs', hstage⟩
      rw [eq_of_stage hstage]
      exact ih hbelow.2 _ _

lemma keeps_translate (t : Translator σ) (header : String) (flags : TranslatorFlags)
    (P : FileSystem → Prop) :
    Step.Keeps (fun w : Workshop σ => P w.files) (translate t header flags) := by
  intro w hw
  unfold translate
  split <;> exact hw

/-- The raw bindings are staged there too, if there are any. -/
lemma keeps_stageRaw (g : Generator σ) (hraw : IsBelow g.manifest.output.raw)
    (staged : List String) (header : Option String) :
    Step.Keeps (fun w : Workshop σ => Contained s base output out w.files)
      (g.stageRaw { s with staged } header) := by
  unfold stageRaw
  split
  · exact Step.keeps_pure _
  · split
    · exact Step.keeps_fail _
    · refine (keeps_translate _ _ _ (Contained s base output out)).bind fun raw _ => ?_
      exact Step.keeps_onFiles (keeps_stage hraw staged raw)

/-- Until files are moved nothing changes outside of the staging directory. -/
theorem keeps_prepare (g : Generator σ) {artifacts : List Artifact}
    (hbelow : ∀ path ∈ artifacts.map Artifact.path ++ [g.manifest.output.raw], IsBelow path)
    (s : Staging) :
    Step.Keeps (fun w : Workshop σ => Contained s base output out w.files)
      (g.prepare artifacts s) := by
  rw [List.forall_mem_append, List.forall_mem_map, List.forall_mem_singleton] at hbelow
  obtain ⟨hartifacts, hraw⟩ := hbelow
  refine (Step.keeps_onFiles (keeps_stageArtifacts hartifacts s.staged none)).bind ?_
  rintro ⟨staging, header⟩ ⟨w, w', hstage⟩
  obtain ⟨files, hstage, -⟩ := Step.onFiles_eq_ok.mp hstage
  obtain ⟨rfl, -⟩ := stageArtifacts_eq_ok hstage
  exact keeps_stageRaw g hraw _ header

/-! ## The whole -/

/-- A generation comes to the point where it moves files. -/
def ReachesCommit (g : Generator σ) (output : String) (w : Workshop σ) : Prop :=
  ∃ compiled w₁ staging w₂ staged w₃, g.compile w = .ok compiled w₁
    ∧ (createNamed g.naming output).onFiles w₁ = .ok staging w₂
    ∧ g.prepare (g.artifacts compiled.1) staging w₂ = .ok staged w₃

/-- What may be left of a generation that was given up: directories on the way to the output
directory, that one included, but no staging directory. -/
structure Abandoned (naming : Naming) (output : String) (before after : FileSystem) : Prop where
  trail : GrowsAlong (before.startOf output) (parts output) before after
  gone : ∀ s opened, createNamed naming output before = .ok s opened →
    ∀ location, s.location <+: location → after.nodeAt? location = none

/-- Where a staging directory would be there is nothing. -/
lemma Abandoned.refl {naming : Naming} (hwf : fs.WellFormed) (hnaming : naming.Fresh)
    (output : String) : Abandoned naming output fs fs := by
  refine ⟨GrowsAlong.refl _ _ fs, fun s opened hopened location hinside => ?_⟩
  obtain ⟨base, out, hdirectories, -, -, hbegin⟩ := Contained.begin hwf hnaming hopened
  have hgrows := grows_of_createDirectories hdirectories
  by_contra hnode
  rw [← hgrows.nodeAt?_eq hnode] at hnode
  exact hnode (hbegin.opened.nodeAt?_eq_none hinside)

lemma keeps_compile (hpipeline : g.pipeline.WritesNoFiles) (files : FileSystem) :
    Step.Keeps (fun w => w.files = files) g.compile := by
  intro w hw
  have hrun := Pipeline.writesNoFiles_run hpipeline files
  unfold compile
  split
  · rename_i herror
    exact hrun.of_eq_error herror hw
  · rename_i hok
    have hfiles := hrun.of_eq_ok hok hw
    split <;> exact hfiles

/-- A write that fails before files are moved. -/
lemma abandoned_of_write (hwf : w.files.WellFormed) (hnaming : g.naming.Fresh)
    {artifacts : List Artifact}
    (hbelow : ∀ path ∈ artifacts.map Artifact.path ++ [g.manifest.output.raw], IsBelow path)
    {failure : Failure}
    (h : g.write artifacts output w = .error failure w')
    (hearly : ∀ s w₁, (createNamed g.naming output).onFiles w = .ok s w₁ →
      ∀ staged w₂, g.prepare artifacts s w₁ ≠ .ok staged w₂) :
    Abandoned g.naming output w.files w'.files := by
  rw [write_eq] at h
  unfold withStaging at h
  split at h
  · rename_i failure' w₁ hcreate
    cases h
    unfold Step.onFiles at hcreate
    split at hcreate
    · cases hcreate
    · rename_i hfailed
      cases hcreate
      refine ⟨growsAlong_of_createNamed hfailed, fun s opened hopened => ?_⟩
      rw [hopened] at hfailed
      cases hfailed
  · rename_i s w₁ hcreate
    have hprepare := hearly s w₁ hcreate
    obtain ⟨opened, hopened, rfl⟩ := Step.onFiles_eq_ok.mp hcreate
    obtain ⟨base, out, hdirectories, -, -, hbegin⟩ := Contained.begin hwf hnaming hopened
    split at h
    · cases h
    · rename_i failure' w₂ hbody
      cases h
      rcases Step.bind_eq_error.mp hbody with hfailed | ⟨staged, w₃, hdone, -⟩
      · have hcontained := (keeps_prepare g hbelow s).of_eq_error hfailed hbegin
        refine ⟨hcontained.growsAlong_discard hdirectories, ?_⟩
        intro s' opened' hopened' location hinside
        rw [hopened] at hopened'
        cases hopened'
        show (s.discard w₂.files).nodeAt? location = none
        rw [Staging.nodeAt?_discard hcontained.opened, if_pos hinside]
      · exact absurd hdone (hprepare staged w₃)

/-- **A generation that fails before it moves files.**  If compiling fails, no file or directory
changes.  If staging fails, whatever stood there before stands there unchanged, the staging
directory is gone, and nothing is new but directories on the way to the output directory.  All
files are named by paths below the output directory; they may be the names of the manifest or
others that the renderers have of their own. -/
theorem generate_abandoned (hpipeline : g.pipeline.WritesNoFiles)
    (hnames : ∀ name ∈ g.fileNames, IsBelow name)
    (hnaming : g.naming.Fresh) (hwf : w.files.WellFormed) {failure : Failure}
    (h : g.generate output w = .error failure w') :
    (∀ cause w₁, g.compile w = .error cause w₁ → w'.files = w.files)
      ∧ (¬ g.ReachesCommit output w → Abandoned g.naming output w.files w'.files) := by
  have hcompile := keeps_compile hpipeline w.files
  rcases Step.bind_eq_error.mp h with hfailed | ⟨⟨model, warnings⟩, w₁, hcompiled, hrest⟩
  · have hfiles := hcompile.of_eq_error hfailed rfl
    refine ⟨fun _ _ _ => hfiles, fun _ => ?_⟩
    rw [hfiles]
    exact Abandoned.refl hwf hnaming output
  · have hfiles : w₁.files = w.files := hcompile.of_eq_ok hcompiled rfl
    refine ⟨fun cause w₂ hfailed => ?_, fun hreaches => ?_⟩
    · rw [hcompiled] at hfailed
      cases hfailed
    · rcases Step.bind_eq_error.mp hrest with hwrite | ⟨results, w₂, -, hpure⟩
      · rw [← hfiles]
        rw [← paths_artifacts g model] at hnames
        refine abandoned_of_write (hfiles ▸ hwf) hnaming hnames hwrite ?_
        intro s w₂ hcreate staged w₃ hprepare
        exact hreaches ⟨_, w₁, s, w₂, staged, w₃, hcompiled, hcreate, hprepare⟩
      · cases hpure

/-- A translator that never comes to a result. -/
def refusing : Translator Unit where
  name := "refuse"
  translate _ header _ journal := (.error (.failed "refuse" header (some 1) ""), journal)

/-- An empty manifest with that translator, and with a header in a directory of its own. -/
def refusedGenerator : Generator Unit where
  manifest := {}
  emitter := [
    { Renderer.header with fileName := fun output => "include/" ++ output.header },
    Renderer.source]
  translator := some refusing

/-- A workshop where the output directory is still to be created. -/
def newWorkshop : Workshop Unit where
  files := ({} : FileSystem).put ["lib"] (.file "".toUTF8)
  journal := ()

theorem generate_abandoned_newWorkshop :
    ∃ failure w', refusedGenerator.generate "build/out" newWorkshop = .error failure w'
      ∧ w'.files.nodeAt? ["build", "out"] = some .directory
      ∧ Abandoned refusedGenerator.naming "build/out" newWorkshop.files w'.files := by
  have hruns : (match refusedGenerator.generate "build/out" newWorkshop with
      | .ok _ _ => false
      | .error _ w' => w'.files.nodeAt? ["build", "out"] = some .directory) = true := by
    decide +kernel
  have hpipeline : refusedGenerator.pipeline.WritesNoFiles := by
    constructor <;> simp [refusedGenerator]
  have hnames : ∀ name ∈ refusedGenerator.fileNames, IsBelow name := by decide
  have hwf : newWorkshop.files.WellFormed := by
    show (({} : FileSystem).put ([] ++ ["lib"]) (.file "".toUTF8)).WellFormed
    exact wellFormed_empty.put rfl (by decide) (by decide)
  -- the translator is asked before any file is moved
  have hearly : ¬ refusedGenerator.ReachesCommit "build/out" newWorkshop := by
    rintro ⟨compiled, w₁, staging, w₂, staged, w₃, hcompile, hcreate, hprepare⟩
    have hsteps : (match refusedGenerator.compile newWorkshop with
        | .error _ _ => false
        | .ok compiled w₁ =>
          match (createNamed refusedGenerator.naming "build/out").onFiles w₁ with
          | .error _ _ => false
          | .ok staging w₂ =>
            match refusedGenerator.prepare (refusedGenerator.artifacts compiled.1) staging w₂ with
            | .error _ _ => false
            | .ok _ _ => true) = false := by decide +kernel
    simp only [hcompile, hcreate, hprepare, Bool.true_eq_false] at hsteps
  cases hrun : refusedGenerator.generate "build/out" newWorkshop with
  | ok result w' =>
      rw [hrun] at hruns
      cases hruns
  | error failure w' =>
      rw [hrun] at hruns
      refine ⟨failure, w', rfl, by simpa using hruns, ?_⟩
      exact (generate_abandoned hpipeline hnames fresh_freshName hwf hrun).2 hearly

end Generator

end ClassBridge
