import ClassBridge.FrontEnd.Bake
import ClassBridge.FrontEnd.Explain
import ClassBridge.Proofs.Artifact.Listings

/-!
# The three front ends

Checking, explaining and previewing a manifest each run a pipeline of their own and put a report of
their own together.  Each of them is decided by the findings of the manifest.

**What each does.**  A check always has a report, with the findings in it (`check_eq`).  An
explanation (`explain_eq`) and a preview (`preview_eq`) fail with the findings if there are any.

**What they have in common.**  An explanation lists the prototypes that the header declares: below
its head the header consists of nothing but what the explanation lists
(`Header.render_eq_declarations`).
-/

namespace ClassBridge

open Text

/-- The rows in which a header declares the functions of a class. -/
def ClassSummary.declarationRows (c : ClassSummary) : List String :=
  ["// " ++ c.name] ++ c.functions.map (· ++ ";") ++ [""]

/-- The part of a header that declares functions, said of the summaries of its classes. -/
def declarations (classes : List ClassSummary) : String :=
  closeRows ([Artifact.linkageMark, ""] ++ classes.flatMap ClassSummary.declarationRows ++ ["\x7d"])

/-- A header declares what the summaries of its classes list, and nothing else. -/
lemma Artifact.Header.render_eq_declarations (model : Model) :
    Header.render model = (Header.head model).write indent
      ++ declarations (model.classes.map (ClassModel.summary model.settings.symbolPrefix)) := by
  have hrows : classRows model.settings.symbolPrefix = fun c : ClassModel =>
      (c.summary model.settings.symbolPrefix).declarationRows := by
    funext c
    rw [classRows, ClassSummary.declarationRows, ClassModel.summary, List.map_map]
    rfl
  rw [render, Script.write_eq, Script.write_eq, rows_script, closeRows_append, declarations,
    List.flatMap_map, hrows]
  rfl

namespace Manifest

variable (manifest : Manifest) (config : String)

/-! ## What each front end does -/

lemma described_error_findings :
    described .error manifest.findings = manifest.findings.map Diagnostic.describe :=
  congrArg (List.map Diagnostic.describe)
    (List.filter_eq_self.mpr fun _ hd => isError_of_mem_findings hd)

lemma described_findings {severity : Severity} (h : severity ≠ .error) :
    described severity manifest.findings = [] := by
  have hnone : manifest.findings.filter (fun d => d.severity == severity) = [] := by
    refine List.filter_eq_nil_iff.mpr fun d hd => ?_
    have herror : d.severity = .error := by
      simpa [Diagnostic.isError] using isError_of_mem_findings hd
    rw [herror, beq_iff_eq]
    exact h.symm
  rw [described, hnone, List.map_nil]

/-- What is found is reported, whether the pipeline ends well or not. -/
lemma diagnose_eq : manifest.diagnose = .ok manifest.findings := by
  rw [diagnose, compile_eq]
  by_cases h : manifest.findings = []
  · rw [if_pos h]
    rfl
  · rw [if_neg h]

lemma check_eq : manifest.check config = .ok {
    config
    classCount := manifest.classes.length
    containerCount := manifest.containers.length
    errors := manifest.findings.map Diagnostic.describe } := by
  rw [check, diagnose_eq]
  show Except.ok _ = _
  rw [described_error_findings, described_findings _ (by decide), described_findings _ (by decide)]

lemma explain_eq : manifest.explain config
    = if manifest.findings = [] then .ok (manifest.explanation config (Model.ofManifest manifest))
      else .error (.during .running (.invalid manifest.findings)) := by
  rw [explain, compile_eq]
  by_cases h : manifest.findings = []
  · rw [if_pos h, if_pos h]
    rfl
  · rw [if_neg h, if_neg h]

/-- The files of a preview. -/
def previewFiles : List (String × String) :=
  (Emitter.standard.artifacts (Model.ofManifest manifest) manifest.output).map
    fun artifact => (artifact.path, artifact.content)

/-- The wish for raw bindings plays no part in what is found and rendered. -/
lemma findings_withRaw (raw : Bool) : (manifest.withRaw raw).findings = manifest.findings := by
  cases raw <;> rfl

lemma previewFiles_withRaw (raw : Bool) :
    (manifest.withRaw raw).previewFiles = manifest.previewFiles := by
  cases raw <;> rfl

/-- A preview leaves the workshop alone. -/
lemma preview_eq (output : String) (raw : Bool) (run : Runner) (w : Workshop Snapshots) :
    manifest.bake { output, dryRun := true, raw } run w
      = if manifest.findings = [] then
          .ok (manifest.bakeReport { output, dryRun := true, raw } []
            (.preview manifest.previewFiles)) w
        else .error (.during .compiling (.invalid manifest.findings)) w := by
  have hcompile := Generator.compile_default
    (g := manifest.generator { output, dryRun := true, raw } run) rfl w
  have hsame : (manifest.generator { output, dryRun := true, raw } run).manifest
      = manifest.withRaw raw := rfl
  rw [hsame, findings_withRaw] at hcompile
  by_cases h : manifest.findings = []
  · rw [if_pos h] at hcompile
    have hpreview : (manifest.generator { output, dryRun := true, raw } run).preview w
        = .ok _ w := Step.bind_of_ok hcompile
    rw [if_pos h, ← previewFiles_withRaw manifest raw]
    exact Step.bind_of_ok (Step.during_of_ok hpreview .compiling)
  · rw [if_neg h] at hcompile
    have hpreview : (manifest.generator { output, dryRun := true, raw } run).preview w
        = .error _ w := Step.bind_eq_error.mpr (Or.inl hcompile)
    rw [if_neg h]
    exact Step.bind_eq_error.mpr (Or.inl (Step.during_of_error hpreview .compiling))

end Manifest

/-! ## Agreement -/

/-- What the three say about a manifest in which nothing is wrong. -/
structure Accepted (manifest : Manifest) (checked : CheckReport) (explained : ExplainReport)
    (preview : List (String × String)) : Prop where
  errors : checked.errors = []
  warnings : checked.warnings = []
  infos : checked.infos = []
  /-- The classes are explained in the order of the model. -/
  classes : explained.classes.map (·.name) = (Model.ofManifest manifest).classes.map (·.name)
  /-- The first file is the header, and below its head it declares what is explained. -/
  header : preview.head? = some (manifest.output.header,
    (Artifact.Header.head (Model.ofManifest manifest)).write Artifact.indent
      ++ declarations explained.classes)
  files : explained.files = preview.map Prod.fst
    ++ if manifest.raw.enabled then [manifest.output.raw ++ " (via " ++ manifest.raw.tool ++ ")"]
      else []

lemma Manifest.accepted {manifest : Manifest} (h : manifest.findings = []) (config : String) :
    ∃ checked, manifest.check config = .ok checked
      ∧ Accepted manifest checked (manifest.explanation config (Model.ofManifest manifest))
        manifest.previewFiles := by
  refine ⟨_, check_eq manifest config, ?_⟩
  exact {
    errors := by rw [h, List.map_nil]
    warnings := rfl
    infos := rfl
    classes := by
      rw [explanation, List.map_map]
      rfl
    header := by
      rw [explanation, ← Artifact.Header.render_eq_declarations]
      rfl
    files := rfl }

/-- **The front ends agree.**  A check never fails, and it reports no errors exactly if the
explanation succeeds and exactly if the preview does.  Where they succeed they tell the same story
(`Accepted`), and otherwise the explanation and the preview fail with the errors that the check
describes. -/
theorem front_ends_agree (manifest : Manifest) (config output : String) (raw : Bool)
    (run : Runner) (w : Workshop Snapshots) :
    ∃ checked, manifest.check config = .ok checked
      ∧ (checked.errors = [] ↔ ∃ explained, manifest.explain config = .ok explained)
      ∧ (checked.errors = [] ↔ ∃ report w',
          manifest.bake { output, dryRun := true, raw } run w = .ok report w')
      ∧ ((∃ explained preview, manifest.explain config = .ok explained
          ∧ manifest.bake { output, dryRun := true, raw } run w
            = .ok (manifest.bakeReport { output, dryRun := true, raw } [] (.preview preview)) w
          ∧ Accepted manifest checked explained preview)
        ∨ ∃ errors, errors ≠ [] ∧ checked.errors = errors.map Diagnostic.describe
          ∧ manifest.explain config = .error (.during .running (.invalid errors))
          ∧ manifest.bake { output, dryRun := true, raw } run w
            = .error (.during .compiling (.invalid errors)) w) := by
  have hexplain := manifest.explain_eq config
  have hpreview := manifest.preview_eq output raw run w
  by_cases h : manifest.findings = []
  · rw [if_pos h] at hexplain hpreview
    obtain ⟨checked, hcheck, haccepted⟩ := manifest.accepted h config
    exact ⟨checked, hcheck, ⟨fun _ => ⟨_, hexplain⟩, fun _ => haccepted.errors⟩,
      ⟨fun _ => ⟨_, _, hpreview⟩, fun _ => haccepted.errors⟩,
      Or.inl ⟨_, _, hexplain, hpreview, haccepted⟩⟩
  · rw [if_neg h] at hexplain hpreview
    have herrors : ¬ manifest.findings.map Diagnostic.describe = [] := by simpa using h
    refine ⟨_, manifest.check_eq config, ⟨fun hnone => absurd hnone herrors, ?_⟩,
      ⟨fun hnone => absurd hnone herrors, ?_⟩, Or.inr ⟨_, h, rfl, hexplain, hpreview⟩⟩
    · rintro ⟨explained, hok⟩
      rw [hexplain] at hok
      cases hok
    · rintro ⟨report, w', hok⟩
      rw [hpreview] at hok
      cases hok

end ClassBridge
