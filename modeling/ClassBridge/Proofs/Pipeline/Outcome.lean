import ClassBridge.Generator
import ClassBridge.Proofs.Sequencing

/-!
# The outcome of the default pipeline

Without plugins and without further phases a run is decided by the manifest alone.  The findings
of a manifest are its collisions and then what the built-in lints report about its whole model
(`Manifest.findings`), all of them errors.  The run succeeds if there are none and fails with all
of them otherwise, and it touches neither the files nor the journal (`Pipeline.run_default`).
-/

namespace ClassBridge

/-- All that the default pipeline reports about a manifest. -/
def Manifest.findings (manifest : Manifest) : List Diagnostic :=
  manifest.collisions ++ Lint.findings Lint.builtin (Model.ofManifest manifest)

/-! ## Every finding is an error -/

namespace Lint

/-- A report of a lint that looks at methods is the report about one of them. -/
lemma mem_overMethods {check : ClassModel → MethodModel → List Diagnostic} {model : Model}
    {d : Diagnostic} :
    d ∈ overMethods check model ↔ ∃ c ∈ model.classes, ∃ m ∈ c.methods, d ∈ check c m := by
  simp only [overMethods, List.mem_flatMap]

lemma overMethods_eq_nil_iff {check : ClassModel → MethodModel → List Diagnostic} {model : Model} :
    overMethods check model = [] ↔ ∀ c ∈ model.classes, ∀ m ∈ c.methods, check c m = [] := by
  simp only [overMethods, List.flatMap_eq_nil_iff]

lemma isError_methodError (lint message className method : String) :
    (methodError lint message className method).isError = true := rfl

lemma isError_of_mem_nonTrivialReturn {model : Model} {d : Diagnostic}
    (h : d ∈ nonTrivialReturn.check model) : d.isError = true := by
  obtain ⟨c, -, m, -, hd⟩ := mem_overMethods.mp h
  cases hreturn : unsafeReturn? model m with
  | none => simp [hreturn] at hd
  | some type =>
      simp only [hreturn, List.mem_singleton] at hd
      rw [hd]
      exact isError_methodError _ _ _ _

lemma isError_of_mem_constStatic {model : Model} {d : Diagnostic}
    (h : d ∈ constStatic.check model) : d.isError = true := by
  obtain ⟨c, -, m, -, hd⟩ := mem_overMethods.mp h
  split at hd
  · rw [List.mem_singleton] at hd
    rw [hd]
    exact isError_methodError _ _ _ _
  · simp at hd

lemma isError_of_mem_reservedParam {model : Model} {d : Diagnostic}
    (h : d ∈ reservedParam.check model) : d.isError = true := by
  obtain ⟨c, -, m, -, hd⟩ := mem_overMethods.mp h
  split at hd
  · simp at hd
  · obtain ⟨p, -, rfl⟩ := List.mem_map.mp hd
    exact isError_methodError _ _ _ _

lemma findings_builtin (model : Model) :
    findings builtin model = nonTrivialReturn.check model ++ constStatic.check model
      ++ reservedParam.check model := by
  simp [findings, builtin, List.append_assoc]

end Lint

namespace Manifest

lemma isError_of_mem_collisions {manifest : Manifest} {d : Diagnostic}
    (h : d ∈ manifest.collisions) : d.isError = true := by
  obtain ⟨entry, -, rfl⟩ := List.mem_map.mp h
  rfl

lemma isError_of_mem_findings {manifest : Manifest} {d : Diagnostic}
    (h : d ∈ manifest.findings) : d.isError = true := by
  rw [findings, Lint.findings_builtin, List.mem_append, List.mem_append, List.mem_append] at h
  rcases h with h | (h | h) | h
  · exact isError_of_mem_collisions h
  · exact Lint.isError_of_mem_nonTrivialReturn h
  · exact Lint.isError_of_mem_constStatic h
  · exact Lint.isError_of_mem_reservedParam h

/-- The compilation that the default pipeline ends with, whether it fails or not. -/
def compiled (manifest : Manifest) : Compilation where
  manifest
  model := some (Model.ofManifest manifest)
  diagnostics := manifest.findings

lemma errors_compiled (manifest : Manifest) : manifest.compiled.errors = manifest.findings :=
  List.filter_eq_self.mpr fun _ h => isError_of_mem_findings h

end Manifest

/-! ## Phases -/

/-- A step that writes no files, whether it ends well or not.  It may read them. -/
def Step.WritesNoFiles {σ α : Type} (step : Step (Session σ) α) : Prop :=
  ∀ files, Step.Keeps (fun s => s.files = files) step

namespace Pipeline

variable {σ : Type}

/-- What holds of the built-in phases and of those of the user holds of all phases. -/
lemma forall_mem_phases {P : Phase σ → Prop} {p : Pipeline σ} (hnormalize : P .normalize)
    (hexpand : P .expand) (hvalidate : P (.validate p.lints))
    (huser : ∀ phase ∈ p.userPhases, P phase) : ∀ phase ∈ p.phases, P phase := by
  simp only [phases, List.cons_append, List.nil_append, List.forall_mem_cons]
  exact ⟨hnormalize, hexpand, hvalidate, huser⟩

/-- A step that works on the compilation alone writes no files. -/
lemma writesNoFiles_inSession {α : Type} (step : CompilationStep α) :
    (step.inSession : Step (Session σ) α).WritesNoFiles := by
  intro files s hs
  unfold CompilationStep.inSession
  cases step s.compilation <;> exact hs

lemma writesNoFiles_of_mem_phases {p : Pipeline σ}
    (huser : ∀ phase ∈ p.userPhases, phase.run.WritesNoFiles) :
    ∀ phase ∈ p.phases, phase.run.WritesNoFiles :=
  forall_mem_phases (writesNoFiles_inSession CompilationStep.normalize)
    (writesNoFiles_inSession CompilationStep.expand)
    (writesNoFiles_inSession (CompilationStep.validate p.lints)) huser

/-! ## The run -/

/-- What a phase and all of its hooks keep is kept by the phase with its hooks.  The after-hooks run
whether the phase fails or not. -/
lemma keeps_runPhase {P : Session σ → Prop} {plugins : List (Plugin σ)} {phase : Phase σ}
    (hbefore : ∀ plugin ∈ plugins, Step.Keeps P (plugin.before phase.name))
    (hphase : Step.Keeps P phase.run)
    (hafter : ∀ plugin ∈ plugins, Step.Keeps P (plugin.after phase.name)) :
    Step.Keeps P (runPhase plugins phase) := by
  have hhooks : Step.Keeps P (afterHooks plugins phase.name) := Step.keeps_forM hafter
  refine (Step.keeps_forM hbefore).bind fun _ _ => ?_
  intro s hs
  have hrun := hphase s hs
  unfold runWithAfterHooks
  split
  · rename_i heq
    rw [heq] at hrun
    exact hhooks _ hrun
  · rename_i heq
    rw [heq] at hrun
    have hkept := hhooks _ hrun
    split
    · rename_i hok
      exact hhooks.of_eq_ok hok hrun
    · rename_i herror
      exact hhooks.of_eq_error herror hrun

/-- Without plugins a phase runs as it is. -/
lemma runPhase_nil (phase : Phase σ) (s : Session σ) : runPhase [] phase s = phase.run s := by
  show runWithAfterHooks [] phase s = phase.run s
  unfold runWithAfterHooks
  cases phase.run s with
  | ok value s => rfl
  | error failure s => rfl

lemma run_plain (lints : List Lint) (s : Session σ) :
    ({ lints } : Pipeline σ).run s
      = (Phase.normalize.run >>= fun _ => Phase.expand.run >>= fun _ =>
          (Phase.validate lints).run) s := by
  have hphase : ∀ phase : Phase σ, runPhase [] phase = phase.run :=
    fun phase => funext fun s => runPhase_nil phase s
  show List.forM [Phase.normalize, Phase.expand, Phase.validate lints] (runPhase []) s = _
  simp only [List.forM, hphase]
  show ((Phase.normalize.run >>= fun _ => Phase.expand.run >>= fun _ =>
    (Phase.validate lints).run >>= fun _ => pure ()) : Step (Session σ) Unit) s = _
  have hpure : ((Phase.validate lints).run >>= fun _ => pure () : Step (Session σ) Unit)
      = (Phase.validate lints).run := by
    funext s
    show EStateM.bind _ _ s = _
    unfold EStateM.bind
    cases (Phase.validate lints).run s <;> rfl
  rw [hpure]

/-- **The default run.**  It ends with the whole model and all findings, and succeeds exactly if
there are no findings. -/
theorem run_default (manifest : Manifest) (files : FileSystem) (journal : σ) :
    ({} : Pipeline σ).run (start manifest files journal)
      = if manifest.findings = [] then .ok () ⟨manifest.compiled, files, journal⟩
        else .error (.invalid manifest.findings) ⟨manifest.compiled, files, journal⟩ := by
  have hrun : ({} : Pipeline σ).run (start manifest files journal)
      = (CompilationStep.failOnErrors.inSession : Step (Session σ) Unit)
          ⟨manifest.compiled, files, journal⟩ := by
    rw [run_plain]
    rfl
  rw [hrun]
  unfold CompilationStep.inSession CompilationStep.failOnErrors
  have herrors := manifest.errors_compiled
  by_cases h : manifest.findings = []
  · have hnone : manifest.compiled.hasErrors = false := by
      simp [Compilation.hasErrors, herrors, h]
    simp [hnone, h]
  · have hsome : manifest.compiled.hasErrors = true := by
      simp [Compilation.hasErrors, herrors, h]
    simp [hsome, h, herrors]

end Pipeline

namespace Manifest

/-- A manifest compiles exactly if nothing is found. -/
theorem compile_eq (manifest : Manifest) :
    manifest.compile
      = if manifest.findings = [] then .ok manifest.compiled
        else .error (.invalid manifest.findings) := by
  rw [compile, Pipeline.run_default]
  by_cases h : manifest.findings = []
  · rw [if_pos h, if_pos h]
  · rw [if_neg h, if_neg h]

/-- The model of a manifest that compiles. -/
lemma model_of_compile {manifest : Manifest} {c : Compilation} (h : manifest.compile = .ok c) :
    c.model = some (Model.ofManifest manifest) := by
  rw [compile_eq] at h
  split at h
  · cases h
    rfl
  · cases h

/-- Nothing is found wrong with a manifest that compiles. -/
lemma findings_eq_nil_of_compile {manifest : Manifest} {c : Compilation}
    (h : manifest.compile = .ok c) : manifest.findings = [] := by
  rw [compile_eq] at h
  split at h
  · assumption
  · cases h

/-- In a manifest that compiles no container has the name of a declared class. -/
lemma freeContainers_of_compile {manifest : Manifest} {c : Compilation}
    (h : manifest.compile = .ok c) : manifest.freeContainers = manifest.containers := by
  have hnone := findings_eq_nil_of_compile h
  rw [findings, List.append_eq_nil_iff, collisions, List.map_eq_nil_iff,
    List.filter_eq_nil_iff] at hnone
  refine List.filter_eq_self.mpr fun entry hentry => ?_
  simpa using hnone.1 entry hentry

/-- No built-in lint objects to a manifest that compiles. -/
lemma check_of_compile {manifest : Manifest} {c : Compilation} (h : manifest.compile = .ok c)
    {lint : Lint} (hlint : lint ∈ Lint.builtin) : lint.check (Model.ofManifest manifest) = [] := by
  have hnone := findings_eq_nil_of_compile h
  rw [findings, List.append_eq_nil_iff, Lint.findings, List.flatMap_eq_nil_iff] at hnone
  exact hnone.2 lint hlint

end Manifest

/-- With the default pipeline a generator compiles exactly what nothing is found in, without
warnings, and leaves the workshop alone. -/
theorem Generator.compile_default {σ : Type} {g : Generator σ} (h : g.pipeline = {})
    (w : Workshop σ) :
    g.compile w
      = if g.manifest.findings = [] then .ok (Model.ofManifest g.manifest, []) w
        else .error (.invalid g.manifest.findings) w := by
  rw [compile, h, Pipeline.run_default]
  by_cases hfindings : g.manifest.findings = []
  · have hwarnings : g.manifest.compiled.warnings = [] := by
      rw [Compilation.warnings, Manifest.compiled, hfindings, List.filter_nil]
    rw [if_pos hfindings, if_pos hfindings]
    show EStateM.Result.ok (_, g.manifest.compiled.warnings) w = _
    rw [hwarnings]
  · rw [if_neg hfindings, if_neg hfindings]

end ClassBridge
