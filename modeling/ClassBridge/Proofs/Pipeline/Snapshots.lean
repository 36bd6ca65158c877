import ClassBridge.Proofs.Pipeline.DumpedValues
import ClassBridge.Proofs.Pipeline.Dumps
import ClassBridge.Proofs.Pipeline.Events
import ClassBridge.Proofs.Pipeline.Outcome

/-!
# Runs with snapshots

The snapshot plugin is a hook after each phase.  It works on a session of its own, in which its
snapshots stand beside the journal of the phases (`Session.beside`), so a run with it and a run
without it can be compared (`Pipeline.snapshotting`).

**What phases find.**  A phase of the user that writes no files may still depend on what it finds
outside of the compilation, and two runs are runs of the same phases only if the phases find the
same there.  Files are the outside of a session.  So the runs are compared among the same files:
the phases of the run without the plugin find, one after the other, the files that they find in the
run with it, dumps included (`Pipeline.runAmid`).  Nothing but these files can make a difference,
and they make none to a phase that does not look at dumps (`Phase.Overlooks`); the built-in phases
work on the compilation alone (`Phase.overlooks_inSession`).

**The run without the plugin.**  `progress` has each phase that runs, with the session right after
it; a phase that fails is the last one.  This is the reference for what has to be recorded.

**The run with snapshots.**  After one phase there is one more snapshot and one more dump, whether
the phase fails or not (`runPhase_recorder`); the whole run follows by induction over the phases
(`forM_recorder`).
-/

namespace ClassBridge

variable {σ ν : Type}

/-! ## Sessions side by side -/

/-- The session with other files. -/
def Session.withFiles (s : Session σ) (files : FileSystem) : Session σ := { s with files }

/-- The session with notes beside its journal. -/
def Session.beside (s : Session σ) (notes : ν) : Session (σ × ν) where
  compilation := s.compilation
  files := s.files
  journal := (s.journal, notes)

/-- The session without the notes. -/
def Session.alone (s : Session (σ × ν)) : Session σ where
  compilation := s.compilation
  files := s.files
  journal := s.journal.1

/-- The end of a step, with notes beside the journal. -/
def Step.beside (notes : ν) :
    EStateM.Result Failure (Session σ) Unit → EStateM.Result Failure (Session (σ × ν)) Unit
  | .ok () t => .ok () (t.beside notes)
  | .error failure t => .error failure (t.beside notes)

namespace Phase

/-- The phase in a session with notes, which it leaves alone. -/
def beside (phase : Phase σ) : Phase (σ × ν) where
  name := phase.name
  description := phase.description
  run := fun s => Step.beside s.journal.2 (phase.run s.alone)

/-- A phase to which it makes no difference whether snapshots were dumped into a directory. -/
def Overlooks (directory : String) (phase : Phase σ) : Prop :=
  ∀ s failure t, phase.run s = Step.ending failure t → ∀ snapshots files,
    Snapshot.Dumped directory snapshots s.files files →
      phase.run (s.withFiles files) = Step.ending failure (t.withFiles files)

/-- What is to be recorded of a phase: its name, and the model and the diagnostics of the session
right after it. -/
def snapshotOf (phase : Phase σ) (after : Session σ) : Snapshot where
  phase := phase.name
  model := after.compilation.model
  diagnostics := after.compilation.diagnostics

end Phase

namespace Snapshot

/-- The plugin that dumps snapshots into a directory and keeps them in a list. -/
def recorder (directory : String) : Plugin (σ × List Snapshot) :=
  plugin (some directory) fun s journal => (journal.1, journal.2 ++ [s])

end Snapshot

namespace Pipeline

/-- The phases that run among the given files without plugins, each with the session right after
it. -/
def progress : List (Phase σ) → (Nat → FileSystem) → Session σ → List (Phase σ × Session σ)
  | [], _, _ => []
  | phase :: phases, found, s =>
    match phase.run (s.withFiles (found 0)) with
    | .ok () t => (phase, t) :: progress phases (fun i => found (i + 1)) t
    | .error _ t => [(phase, t)]

/-- What is to be recorded of some phases. -/
def snapshots (phases : List (Phase σ)) (found : Nat → FileSystem) (s : Session σ) :
    List Snapshot :=
  (progress phases found s).map fun entry => entry.1.snapshotOf entry.2

/-- How the phases that run are related to those that are planned, and to how the run ends. -/
structure Progressed (phases : List (Phase σ)) (failure : Option Failure) (t : Session σ)
    (ran : List (Phase σ × Session σ)) : Prop where
  isPrefix : ran.map Prod.fst <+: phases
  whole : failure = none → ran.map Prod.fst = phases
  /-- Where the run fails, its last phase does. -/
  failed : ∀ e, failure = some e →
    ∃ phase before, ran.getLast? = some (phase, t) ∧ phase.run before = .error e t

end Pipeline

/-! ## How steps end -/

namespace Step

variable {τ : Type}

lemma exists_ending (result : EStateM.Result Failure τ Unit) :
    ∃ failure t, result = ending failure t := by
  cases result with
  | ok value t => exact ⟨none, t, rfl⟩
  | error failure t => exact ⟨some failure, t, rfl⟩

lemma ending_inj {failure failure' : Option Failure} {t t' : τ} :
    ending failure t = ending failure' t' ↔ failure = failure' ∧ t = t' := by
  cases failure <;> cases failure' <;> simp [ending]

end Step

namespace Phase

variable {phase : Phase σ} {directory : String} {s t : Session σ} {failure : Option Failure}

/-- What a phase that overlooks dumps does among them it does without them. -/
lemma Overlooks.run_eq (h : phase.Overlooks directory) {snapshots : List Snapshot}
    {files : FileSystem} (hdumped : Snapshot.Dumped directory snapshots s.files files)
    (hrun : phase.run (s.withFiles files) = Step.ending failure t) :
    phase.run s = Step.ending failure (t.withFiles s.files) := by
  obtain ⟨own, u, halone⟩ := Step.exists_ending (phase.run s)
  -- no dumps at all: the phase leaves the files as they are
  have hsame := h s own u halone [] s.files (.nil _ _)
  rw [show s.withFiles s.files = s from rfl, halone, Step.ending_inj] at hsame
  have hamong := h s own u halone snapshots files hdumped
  rw [hrun, Step.ending_inj] at hamong
  obtain ⟨rfl, rfl⟩ := hamong
  rw [halone, hsame.2]
  rfl

end Phase

namespace Pipeline

variable {phase : Phase σ} {phases : List (Phase σ)} {directory : String} {s t : Session σ}
  {failure : Option Failure} {files files' : FileSystem} {found : Nat → FileSystem}

/-- No phases, no failure. -/
lemma Progressed.nil (t : Session σ) : Progressed [] none t [] :=
  ⟨List.prefix_rfl, fun _ => rfl, fun _ h => (by cases h)⟩

lemma Progressed.fails {e : Failure} (h : phase.run s = .error e t) (phases : List (Phase σ)) :
    Progressed (phase :: phases) (some e) t [(phase, t)] := by
  refine ⟨⟨phases, rfl⟩, fun hnone => (by cases hnone), fun later hlater => ?_⟩
  cases hlater
  exact ⟨phase, s, rfl, h⟩

lemma Progressed.cons {ran : List (Phase σ × Session σ)} (h : Progressed phases failure t ran)
    (phase : Phase σ) (s : Session σ) :
    Progressed (phase :: phases) failure t ((phase, s) :: ran) := by
  refine ⟨(List.prefix_cons_inj phase).mpr h.isPrefix, fun hnone => ?_, fun e he => ?_⟩
  · exact congrArg (phase :: ·) (h.whole hnone)
  · obtain ⟨last, before, hlast, hfails⟩ := h.failed e he
    refine ⟨last, before, ?_, hfails⟩
    rw [List.getLast?_cons, hlast]
    rfl

/-! ## One phase with a snapshot -/

end Pipeline

end ClassBridge
