import ClassBridge.Artifact.Emitter
import ClassBridge.Generator
import ClassBridge.Proofs.Pipeline.Outcome

/-!
# Errors before and behind the gate

A run looks for errors once, when the lints have run.  Up to there every error counts, whoever
recorded it: where the run goes on, there are none (`errors_of_upToGate`).

**Behind the gate** come the after-hooks of the validation and the further phases with their hooks.
If none of them makes an error there is none in the end (`Pipeline.Quiet`).  If one does, nothing
stops the run, and nobody hears of the error: a further phase that records errors leaves the model
and the warnings of the compilation as they are (`errors_of_compile`).
-/

namespace ClassBridge

variable {σ α : Type}

lemma CompilationStep.inSession_eq_ok {step : CompilationStep α} {s s' : Session σ} {a : α} :
    step.inSession s = .ok a s'
      ↔ ∃ c, step s.compilation = .ok a c ∧ s' = { s with compilation := c } := by
  unfold inSession
  cases hstep : step s.compilation with
  | ok value c =>
      constructor
      · intro h
        cases h
        exact ⟨c, rfl, rfl⟩
      · rintro ⟨_, hc, rfl⟩
        cases hc
        rfl
  | error failure c => simp

/-- A step after which there are no errors if there were none before. -/
def Step.MakesNoErrors (step : Step (Session σ) α) : Prop :=
  Step.Keeps (fun s => s.compilation.errors = []) step

/-- A phase that only records diagnostics. -/
def Phase.recording (name : String) (diagnostics : List Diagnostic) : Phase σ where
  name
  description := "Record diagnostics"
  run := (CompilationStep.report diagnostics).inSession

namespace Pipeline

variable {p : Pipeline σ} {plugins : List (Plugin σ)} {phase : Phase σ} {s s' : Session σ}

/-! ## Runs that end well -/

lemma runPhase_eq_ok : runPhase plugins phase s = .ok () s'
    ↔ ∃ s₁ s₂, beforeHooks plugins phase.name s = .ok () s₁ ∧ phase.run s₁ = .ok () s₂
      ∧ afterHooks plugins phase.name s₂ = .ok () s' := by
  have hafter : ∀ s₁, runWithAfterHooks plugins phase s₁ = .ok () s'
      ↔ ∃ s₂, phase.run s₁ = .ok () s₂ ∧ afterHooks plugins phase.name s₂ = .ok () s' := by
    intro s₁
    unfold runWithAfterHooks
    cases phase.run s₁ with
    | ok value s₂ => simp
    | error failure s₂ =>
        dsimp only
        split <;> simp
  simp only [runPhase, Step.seq_eq_ok, hafter, exists_and_left]

/-- The run up to the point where the validation looks for errors, that point included. -/
def upToGate (p : Pipeline σ) : Step (Session σ) Unit := do
  runPhase p.plugins .normalize
  runPhase p.plugins .expand
  beforeHooks p.plugins "validate"
  (Phase.validate p.lints).run

/-- The rest of the run. -/
def beyondGate (p : Pipeline σ) : Step (Session σ) Unit := do
  afterHooks p.plugins "validate"
  p.userPhases.forM (runPhase p.plugins)

/-- A run ends well if both of its halves do. -/
lemma run_eq_ok : p.run s = .ok () s'
    ↔ ∃ gate, p.upToGate s = .ok () gate ∧ p.beyondGate gate = .ok () s' := by
  show (runPhase p.plugins .normalize >>= fun _ => runPhase p.plugins .expand >>= fun _ =>
    runPhase p.plugins (.validate p.lints) >>= fun _ =>
      p.userPhases.forM (runPhase p.plugins)) s = _ ↔ _
  -- the gate lies inside of the third phase, between its step and its after-hooks
  simp only [upToGate, beyondGate, Step.seq_eq_ok, runPhase_eq_ok]
  constructor
  · rintro ⟨s₁, hnormalize, s₂, hexpand, s₃, ⟨s₄, gate, hbefore, hrun, hafter⟩, huser⟩
    exact ⟨gate, ⟨s₁, hnormalize, s₂, hexpand, s₄, hbefore, hrun⟩, s₃, hafter, huser⟩
  · rintro ⟨gate, ⟨s₁, hnormalize, s₂, hexpand, s₄, hbefore, hrun⟩, s₃, hafter, huser⟩
    exact ⟨s₁, hnormalize, s₂, hexpand, s₃, ⟨s₄, gate, hbefore, hrun, hafter⟩, huser⟩

/-! ## The gate -/

/-- Where the validation ends well there are no errors. -/
lemma errors_of_validate {lints : List Lint} {c c' : Compilation}
    (h : CompilationStep.validate lints c = .ok () c') : c'.errors = [] := by
  obtain ⟨model, c₁, -, h⟩ := Step.bind_eq_ok.mp h
  obtain ⟨c₂, -, h⟩ := Step.seq_eq_ok.mp h
  unfold CompilationStep.failOnErrors at h
  split at h
  · cases h
  · rename_i hnone
    cases h
    simpa [Compilation.hasErrors] using hnone

/-- A run that goes on behind the gate has no errors so far, whoever might have made them. -/
theorem errors_of_upToGate (h : p.upToGate s = .ok () s') : s'.compilation.errors = [] := by
  obtain ⟨s₁, -, h⟩ := Step.seq_eq_ok.mp h
  obtain ⟨s₂, -, h⟩ := Step.seq_eq_ok.mp h
  obtain ⟨s₃, -, h⟩ := Step.seq_eq_ok.mp h
  obtain ⟨c, hvalidate, rfl⟩ := CompilationStep.inSession_eq_ok.mp h
  exact errors_of_validate hvalidate

/-! ## Behind the gate -/

/-- Nothing that runs behind the gate makes an error. -/
structure Quiet (p : Pipeline σ) : Prop where
  gate : ∀ plugin ∈ p.plugins, (plugin.after "validate").MakesNoErrors
  phases : ∀ phase ∈ p.userPhases, phase.run.MakesNoErrors
  before : ∀ phase ∈ p.userPhases, ∀ plugin ∈ p.plugins, (plugin.before phase.name).MakesNoErrors
  after : ∀ phase ∈ p.userPhases, ∀ plugin ∈ p.plugins, (plugin.after phase.name).MakesNoErrors

/-- Behind the gate a quiet pipeline makes no errors. -/
lemma Quiet.makesNoErrors_beyondGate (h : p.Quiet) : p.beyondGate.MakesNoErrors := by
  refine (Step.keeps_forM h.gate).bind fun _ _ => Step.keeps_forM fun phase hphase => ?_
  exact keeps_runPhase (h.before phase hphase) (h.phases phase hphase) (h.after phase hphase)

/-! ## A further phase -/

/-- Plugins do nothing around phases of that name. -/
def IdleAround (p : Pipeline σ) (name : String) : Prop :=
  ∀ plugin ∈ p.plugins, plugin.before name = pure () ∧ plugin.after name = pure ()

/-- The pipeline with one more phase at its end. -/
def followedBy (p : Pipeline σ) (phase : Phase σ) : Pipeline σ :=
  { p with userPhases := p.userPhases ++ [phase] }

lemma run_followedBy_eq_ok : (p.followedBy phase).run s = .ok () s'
    ↔ ∃ s₁, p.run s = .ok () s₁ ∧ runPhase p.plugins phase s₁ = .ok () s' := by
  have hphases : (p.followedBy phase).phases = p.phases ++ [phase] := by
    rw [phases, phases, followedBy, List.append_assoc]
  have hplugins : (p.followedBy phase).plugins = p.plugins := rfl
  rw [run, hphases, hplugins, Step.forM_append_eq_ok]
  simp only [Step.forM_cons_eq_ok, Step.forM_nil_eq_ok, exists_eq_right]
  rfl

/-- Hooks that do nothing leave the session as it is. -/
lemma forM_hooks_eq_ok {hook : Plugin σ → Step (Session σ) Unit}
    (h : ∀ plugin ∈ plugins, hook plugin = pure ()) (s : Session σ) :
    plugins.forM hook s = .ok () s := by
  induction plugins with
  | nil => exact Step.forM_nil_eq_ok.mpr rfl
  | cons plugin plugins ih =>
      rw [List.forall_mem_cons] at h
      refine Step.forM_cons_eq_ok.mpr ⟨s, ?_, ih h.2⟩
      rw [h.1]
      rfl

/-- The run with a further phase that records diagnostics ends with these. -/
lemma run_followedBy_recording {name : String} (hidle : p.IdleAround name)
    (diagnostics : List Diagnostic) (h : p.run s = .ok () s') :
    (p.followedBy (.recording name diagnostics)).run s
      = .ok () { s' with compilation := s'.compilation.report diagnostics } := by
  refine run_followedBy_eq_ok.mpr ⟨s', h, runPhase_eq_ok.mpr ⟨s', _, ?_, rfl, ?_⟩⟩
  · exact forM_hooks_eq_ok (fun plugin hplugin => (hidle plugin hplugin).1) s'
  · exact forM_hooks_eq_ok (fun plugin hplugin => (hidle plugin hplugin).2) _

end Pipeline

/-! ## Compilations -/

namespace Compilation

variable {c : Compilation} {late : List Diagnostic}

lemma errors_report (h : ∀ d ∈ late, d.isError = true) :
    (c.report late).errors = c.errors ++ late := by
  rw [errors, report, List.filter_append, List.filter_eq_self.mpr h]
  rfl

lemma warnings_report (h : ∀ d ∈ late, d.isError = true) :
    (c.report late).warnings = c.warnings := by
  have hnone : late.filter Diagnostic.isWarning = [] := by
    refine List.filter_eq_nil_iff.mpr fun d hd hwarning => ?_
    have herror := h d hd
    rw [Diagnostic.isError, beq_iff_eq] at herror
    rw [Diagnostic.isWarning, herror] at hwarning
    exact Bool.noConfusion hwarning
  rw [warnings, report, List.filter_append, hnone, List.append_nil]
  rfl

end Compilation

namespace Generator

open Pipeline Compilation

variable {g : Generator σ} {w w' : Workshop σ} {model : Model} {warnings : List Diagnostic}

/-- The generator with one more phase at the end of its pipeline. -/
def followedBy (g : Generator σ) (phase : Phase σ) : Generator σ :=
  { g with pipeline := g.pipeline.followedBy phase }

lemma compile_eq_ok : g.compile w = .ok (model, warnings) w'
    ↔ ∃ final, g.pipeline.run (start g.manifest w.files w.journal) = .ok () final
      ∧ final.compilation.model = some model ∧ final.compilation.warnings = warnings
      ∧ w' = ⟨final.files, final.journal⟩ := by
  unfold compile
  cases hrun : g.pipeline.run (start g.manifest w.files w.journal) with
  | error failure final => simp
  | ok value final =>
      cases hmodel : final.compilation.model with
      | none => simp [hmodel]
      | some model => simp [hmodel, and_assoc, eq_comm]

/-- A further phase makes no difference if the compilation comes out the same. -/
lemma preview_followedBy {phase : Phase σ} (h : (g.followedBy phase).compile w = g.compile w) :
    (g.followedBy phase).preview w = g.preview w := by
  show EStateM.bind _ _ w = EStateM.bind _ _ w
  unfold EStateM.bind
  rw [h]
  rfl

lemma generate_followedBy {phase : Phase σ} (h : (g.followedBy phase).compile w = g.compile w)
    (output : String) : (g.followedBy phase).generate output w = g.generate output w := by
  show EStateM.bind _ _ w = EStateM.bind _ _ w
  unfold EStateM.bind
  rw [h]
  rfl

/-- **Errors before and behind the gate.**  If a compilation succeeds there were no errors when its
run passed the gate.  There are none in the end either if nothing behind the gate makes one.  But
errors that are made there are not fatal: if one more phase records some, then compilation, preview
and generation come out as they did without it, warnings included, although the run ends with those
errors. -/
theorem errors_of_compile (h : g.compile w = .ok (model, warnings) w') :
    ∃ gate final, g.pipeline.upToGate (start g.manifest w.files w.journal) = .ok () gate
      ∧ gate.compilation.errors = []
      ∧ g.pipeline.beyondGate gate = .ok () final
      ∧ g.pipeline.run (start g.manifest w.files w.journal) = .ok () final
      ∧ (g.pipeline.Quiet → final.compilation.errors = [])
      ∧ ∀ name late, g.pipeline.IdleAround name → (∀ d ∈ late, d.isError = true) →
        (∃ last, (g.followedBy (.recording name late)).pipeline.run
            (start g.manifest w.files w.journal) = .ok () last
          ∧ last.compilation.errors = final.compilation.errors ++ late)
        ∧ (g.followedBy (.recording name late)).compile w = g.compile w
        ∧ (g.followedBy (.recording name late)).preview w = g.preview w
        ∧ ∀ output, (g.followedBy (.recording name late)).generate output w
          = g.generate output w := by
  obtain ⟨final, hrun, hmodel, hwarnings, rfl⟩ := compile_eq_ok.mp h
  obtain ⟨gate, hgate, hbeyond⟩ := run_eq_ok.mp hrun
  have hclean := errors_of_upToGate hgate
  refine ⟨gate, final, hgate, hclean, hbeyond, hrun, ?_, ?_⟩
  · intro hquiet
    exact hquiet.makesNoErrors_beyondGate.of_eq_ok hbeyond hclean
  · intro name late hidle hlate
    have hlast := run_followedBy_recording hidle late hrun
    have hsame : (g.followedBy (.recording name late)).compile w = g.compile w := by
      rw [h]
      exact compile_eq_ok.mpr ⟨_, hlast, hmodel, (warnings_report hlate).trans hwarnings, rfl⟩
    exact ⟨⟨_, hlast, errors_report hlate⟩, hsame, preview_followedBy hsame,
      generate_followedBy hsame⟩

/-- A remark that is not an error. -/
def remark : Diagnostic where
  severity := .warning
  phase := "validate"
  message := "nothing is declared"

/-- Makes the remark when the lints have run. -/
def reviewer : Plugin Unit where
  name := "review"
  after phase := if phase = "validate" then (CompilationStep.report [remark]).inSession else pure ()

/-- An empty manifest with that plugin. -/
def reviewedGenerator : Generator Unit where
  manifest := {}
  emitter := Emitter.standard
  pipeline := { plugins := [reviewer] }

/-- A workshop without files. -/
def bareWorkshop : Workshop Unit where
  files := {}
  journal := ()

/-- An error that is found after the validation. -/
def lateError : Diagnostic where
  severity := .error
  phase := "audit"
  message := "late"

theorem errors_of_compile_reviewedGenerator :
    ∃ model final, reviewedGenerator.compile bareWorkshop = .ok (model, [remark]) bareWorkshop
      ∧ reviewedGenerator.pipeline.run (start {} {} ()) = .ok () final
      ∧ final.compilation.errors = []
      ∧ (reviewedGenerator.followedBy (.recording "audit" [lateError])).generate "out" bareWorkshop
        = reviewedGenerator.generate "out" bareWorkshop := by
  have hcompiled : reviewedGenerator.compile bareWorkshop
      = .ok (Model.ofManifest {}, [remark]) bareWorkshop := rfl
  have hquiet : reviewedGenerator.pipeline.Quiet := by
    refine ⟨?_, ?_, ?_, ?_⟩
    · intro plugin hplugin s hs
      obtain rfl := List.mem_singleton.mp hplugin
      have hremark : (s.compilation.report [remark]).errors = s.compilation.errors := by
        rw [Compilation.errors, report, List.filter_append]
        exact List.append_nil _
      exact hremark.trans hs
    all_goals simp [reviewedGenerator]
  have hidle : reviewedGenerator.pipeline.IdleAround "audit" := by
    intro plugin hplugin
    obtain rfl := List.mem_singleton.mp hplugin
    exact ⟨rfl, rfl⟩
  obtain ⟨gate, final, -, -, -, hrun, hclean, hlate⟩ := errors_of_compile hcompiled
  obtain ⟨-, -, -, hgenerate⟩ := hlate "audit" [lateError] hidle (by decide)
  exact ⟨_, final, hcompiled, hrun, hclean hquiet, hgenerate "out"⟩

/-- An error behind the gate is recorded, and the compilation succeeds. -/
theorem errors_not_fatal :
    ∃ model final, (reviewedGenerator.followedBy (.recording "audit" [lateError])).compile
        bareWorkshop = .ok (model, [remark]) bareWorkshop
      ∧ (reviewedGenerator.followedBy (.recording "audit" [lateError])).pipeline.run
        (start {} {} ()) = .ok () final
      ∧ final.compilation.errors = [lateError] :=
  ⟨_, _, rfl, rfl, rfl⟩

end Generator

end ClassBridge
