import ClassBridge.Pipeline.Basic
import ClassBridge.Proofs.Sequencing

/-!
# What happens in a run

A run does three kinds of things: it calls the before-hooks of a phase, it runs the phase, and it
calls the after-hooks (`Event`).  Watching a run means to run the same phases and plugins, each of
which also enters into a log what it did and how that ended (`Phase.watched`, `Plugin.watched`).
Watching changes nothing else (`watched_eq`).

**One phase.**  A log of a phase is one of two (`PhaseLog`).  Either a before-hook fails; then
nothing but before-hooks has happened.  Or the phase itself runs after all before-hooks, and the
after-hooks follow, whether the phase fails or not, up to the first of them that fails.  If both
fail the failure of the phase counts.

**A run.**  The logs of the phases follow each other up to the first phase that fails
(`RunLog`).

The proofs go along the three loops of a run, and each loop has one lemma: hooks
(`recorded_forM`), a phase with its hooks (`recorded_runPhase`) and phases (`recorded_phases`).
-/

namespace ClassBridge

variable {σ : Type}

/-- What can happen in a run. -/
inductive Event (σ : Type) where
  /-- A plugin is called before a phase. -/
  | before (plugin : Plugin σ) (phase : String)
  | ran (phase : Phase σ)
  /-- A plugin is called after a phase. -/
  | after (plugin : Plugin σ) (phase : String)

/-- An event and its failure, if it failed. -/
structure Entry (σ : Type) where
  event : Event σ
  failure : Option Failure := none

/-- What happened, in order. -/
abbrev Log (σ : Type) : Type := List (Entry σ)

namespace Log

/-- The events of a log, without their failures. -/
def events (log : Log σ) : List (Event σ) := log.map (·.event)

/-- Nothing in the log failed. -/
def Clean (log : Log σ) : Prop := ∀ entry ∈ log, entry.failure = none

end Log

/-! ## Watching -/

/-- How a step ends: well or with a failure, and in a state. -/
def Step.ending {τ : Type} (failure : Option Failure) (s : τ) : EStateM.Result Failure τ Unit :=
  match failure with
  | none => .ok () s
  | some failure => .error failure s

/-- The session whose journal also holds a log. -/
def Session.withLog (s : Session σ) (log : Log σ) : Session (σ × Log σ) where
  compilation := s.compilation
  files := s.files
  journal := (s.journal, log)

/-- The session without the log. -/
def Session.withoutLog (s : Session (σ × Log σ)) : Session σ where
  compilation := s.compilation
  files := s.files
  journal := s.journal.1

namespace Event

/-- What is done at an event. -/
def step : Event σ → Step (Session σ) Unit
  | before plugin phase => plugin.before phase
  | ran phase => phase.run
  | after plugin phase => plugin.after phase

/-- The same, and then an entry at the end of the log. -/
def watched (event : Event σ) : Step (Session (σ × Log σ)) Unit := fun s =>
  match event.step s.withoutLog with
  | .ok () t => .ok () (t.withLog (s.journal.2 ++ [⟨event, none⟩]))
  | .error failure t => .error failure (t.withLog (s.journal.2 ++ [⟨event, some failure⟩]))

end Event

/-- A phase that enters itself into the log. -/
def Phase.watched (phase : Phase σ) : Phase (σ × Log σ) where
  name := phase.name
  description := phase.description
  run := (Event.ran phase).watched

/-- A plugin that enters its hooks into the log. -/
def Plugin.watched (plugin : Plugin σ) : Plugin (σ × Log σ) where
  name := plugin.name
  before := fun phase => (Event.before plugin phase).watched
  after := fun phase => (Event.after plugin phase).watched

namespace Pipeline

/-! ## What may be in a log -/

/-- The calls of all plugins before a phase. -/
def beforeEvents (plugins : List (Plugin σ)) (phase : String) : List (Event σ) :=
  plugins.map fun plugin => .before plugin phase

/-- The calls of all plugins after a phase. -/
def afterEvents (plugins : List (Plugin σ)) (phase : String) : List (Event σ) :=
  plugins.map fun plugin => .after plugin phase

/-- All events of a phase. -/
def phaseEvents (plugins : List (Plugin σ)) (phase : Phase σ) : List (Event σ) :=
  beforeEvents plugins phase.name ++ .ran phase :: afterEvents plugins phase.name

/-- Events happen in order, up to and including the first that fails. -/
inductive HookLog : List (Event σ) → Log σ → Option Failure → Prop
  | done : HookLog [] [] none
  | fails (event : Event σ) (rest : List (Event σ)) (failure : Failure) :
      HookLog (event :: rest) [⟨event, some failure⟩] (some failure)
  | goesOn (event : Event σ) {rest : List (Event σ)} {log : Log σ} {failure : Option Failure} :
      HookLog rest log failure → HookLog (event :: rest) (⟨event, none⟩ :: log) failure

/-- A phase with its hooks. -/
inductive PhaseLog (plugins : List (Plugin σ)) (phase : Phase σ) : Log σ → Option Failure → Prop
  | blocked {log : Log σ} {failure : Failure} :
      HookLog (beforeEvents plugins phase.name) log (some failure) →
      PhaseLog plugins phase log (some failure)
  | ran {before after : Log σ} {own hook : Option Failure} :
      HookLog (beforeEvents plugins phase.name) before none →
      HookLog (afterEvents plugins phase.name) after hook →
      PhaseLog plugins phase (before ++ ⟨.ran phase, own⟩ :: after) (own.or hook)

/-- Phases run in order, up to and including the first that fails. -/
inductive RunLog (plugins : List (Plugin σ)) :
    List (Phase σ) → Log σ → Option Failure → Prop
  | done : RunLog plugins [] [] none
  | fails {phase : Phase σ} (rest : List (Phase σ)) {log : Log σ} {failure : Failure} :
      PhaseLog plugins phase log (some failure) →
      RunLog plugins (phase :: rest) log (some failure)
  | goesOn {phase : Phase σ} {rest : List (Phase σ)} {log more : Log σ}
      {failure : Option Failure} :
      PhaseLog plugins phase log none → RunLog plugins rest more failure →
      RunLog plugins (phase :: rest) (log ++ more) failure

/-! ## Logs and schedules -/

section Schedules

variable {log : Log σ} {failure : Option Failure}

@[simp] lemma clean_nil : Log.Clean ([] : Log σ) := by simp [Log.Clean]

@[simp] lemma clean_cons {entry : Entry σ} :
    Log.Clean (entry :: log) ↔ entry.failure = none ∧ log.Clean := by simp [Log.Clean]

@[simp] lemma clean_append {more : Log σ} :
    Log.Clean (log ++ more) ↔ log.Clean ∧ more.Clean := by
  simp [Log.Clean, or_imp, forall_and]

/-- What a log has to do with the events it is about: it has the first of them, it has all of them
if nothing failed, and it is clean exactly if nothing failed. -/
structure Follows (events : List (Event σ)) (log : Log σ) (failure : Option Failure) : Prop where
  isPrefix : log.events <+: events
  whole : failure = none → log.events = events
  clean : failure = none ↔ log.Clean

lemma HookLog.follows {events : List (Event σ)} (h : HookLog events log failure) :
    Follows events log failure := by
  induction h with
  | done => exact ⟨List.prefix_rfl, fun _ => rfl, by simp⟩
  | fails event rest failure =>
      exact ⟨⟨rest, rfl⟩, by simp, by simp⟩
  | goesOn event _ ih =>
      refine ⟨(List.prefix_cons_inj event).mpr ih.isPrefix, fun hnone => ?_, ?_⟩
      · exact congrArg (event :: ·) (ih.whole hnone)
      · simpa using ih.clean

/-- Nothing follows what failed. -/
lemma Follows.prolong {events : List (Event σ)} {failure : Failure}
    (h : Follows events log (some failure)) (more : List (Event σ)) :
    Follows (events ++ more) log (some failure) :=
  ⟨h.isPrefix.trans (List.prefix_append events more), by simp, h.clean⟩

lemma Follows.append {events later : List (Event σ)} {more : Log σ}
    (h : Follows events log none) (hmore : Follows later more failure) :
    Follows (events ++ later) (log ++ more) failure := by
  have hsplit : Log.events (log ++ more) = events ++ more.events := by
    rw [← h.whole rfl, Log.events, List.map_append]
    rfl
  refine ⟨?_, fun hnone => ?_, ?_⟩
  · rw [hsplit]
    exact (List.prefix_append_right_inj events).mpr hmore.isPrefix
  · rw [hsplit, hmore.whole hnone]
  · rw [clean_append, ← hmore.clean, ← h.clean]
    simp

/-- A phase that failed is followed by hooks all the same. -/
lemma Follows.cons {events : List (Event σ)} {hook : Option Failure}
    (h : Follows events log hook) (event : Event σ) (own : Option Failure) :
    Follows (event :: events) (⟨event, own⟩ :: log) (own.or hook) := by
  refine ⟨(List.prefix_cons_inj event).mpr h.isPrefix, fun hnone => ?_, ?_⟩
  · rw [Option.or_eq_none_iff] at hnone
    exact congrArg (event :: ·) (h.whole hnone.2)
  · rw [Option.or_eq_none_iff, clean_cons, h.clean]

variable {plugins : List (Plugin σ)}

lemma PhaseLog.follows {phase : Phase σ} (h : PhaseLog plugins phase log failure) :
    Follows (phaseEvents plugins phase) log failure := by
  cases h with
  | blocked hbefore => exact hbefore.follows.prolong _
  | ran hbefore hafter => exact hbefore.follows.append (hafter.follows.cons _ _)

lemma RunLog.follows {phases : List (Phase σ)} (h : RunLog plugins phases log failure) :
    Follows (phases.flatMap (phaseEvents plugins)) log failure := by
  induction h with
  | done => exact ⟨List.prefix_rfl, fun _ => rfl, by simp⟩
  | fails rest hphase =>
      rw [List.flatMap_cons]
      exact hphase.follows.prolong _
  | goesOn hphase _ ih =>
      rw [List.flatMap_cons]
      exact hphase.follows.append ih

end Schedules

/-! ## Recorded steps -/

lemma runWithAfterHooks_eq {plugins : List (Plugin σ)} {phase : Phase σ} {s s₁ s₂ : Session σ}
    {own hook : Option Failure} (hrun : phase.run s = Step.ending own s₁)
    (hafter : afterHooks plugins phase.name s₁ = Step.ending hook s₂) :
    runWithAfterHooks plugins phase s = Step.ending (own.or hook) s₂ := by
  rw [runWithAfterHooks, hrun]
  cases own with
  | none => exact hafter
  | some failure =>
      cases hook with
      | none => simp [Step.ending, hafter]
      | some later => simp [Step.ending, hafter]

/-- A watched step ends as the step itself does, and what it adds to the log fits the way it
ended. -/
def Recorded (fits : Log σ → Option Failure → Prop) (step : Step (Session σ) Unit)
    (watched : Step (Session (σ × Log σ)) Unit) : Prop :=
  ∀ s log, ∃ failure s' more, step s = Step.ending failure s'
    ∧ watched (s.withLog log) = Step.ending failure (s'.withLog (log ++ more))
    ∧ fits more failure

/-- One recorded step after the other. -/
lemma Recorded.seq {first second fits : Log σ → Option Failure → Prop}
    {step step' : Step (Session σ) Unit} {watched watched' : Step (Session (σ × Log σ)) Unit}
    (h : Recorded first step watched) (h' : Recorded second step' watched')
    (hfails : ∀ log failure, first log (some failure) → fits log (some failure))
    (hgoesOn : ∀ log more failure, first log none → second more failure →
      fits (log ++ more) failure) :
    Recorded fits (step >>= fun _ => step') (watched >>= fun _ => watched') := by
  intro s log
  obtain ⟨failure, s₁, new, hstep, hwatched, hfits⟩ := h s log
  cases failure with
  | some failure =>
      exact ⟨some failure, s₁, new, Step.bind_eq_error.mpr (Or.inl hstep),
        Step.bind_eq_error.mpr (Or.inl hwatched), hfails _ _ hfits⟩
  | none =>
      obtain ⟨failure, s₂, more, hstep', hwatched', hfits'⟩ := h' s₁ (log ++ new)
      refine ⟨failure, s₂, new ++ more, ?_, ?_, hgoesOn _ _ _ hfits hfits'⟩
      · rw [← hstep']
        exact Step.bind_of_ok hstep
      · rw [← List.append_assoc, ← hwatched']
        exact Step.bind_of_ok hwatched

lemma recorded_event (event : Event σ) :
    Recorded (fun log failure => log = [⟨event, failure⟩]) event.step event.watched := by
  intro s log
  have hsession : (s.withLog log).withoutLog = s := rfl
  rw [Event.watched, hsession]
  cases event.step s with
  | ok value s' => exact ⟨none, s', _, rfl, rfl, rfl⟩
  | error failure s' => exact ⟨some failure, s', _, rfl, rfl, rfl⟩

lemma recorded_pure : Recorded (fun log failure => log = [] ∧ failure = none)
    (pure () : Step (Session σ) Unit) (pure ()) := by
  intro s log
  refine ⟨none, s, [], rfl, ?_, rfl, rfl⟩
  rw [List.append_nil]
  rfl

/-- A loop over hooks, each of them recorded as an event. -/
lemma recorded_forM (plugins : List (Plugin σ)) (hook : Plugin σ → Event σ) :
    Recorded (HookLog (plugins.map hook)) (plugins.forM fun plugin => (hook plugin).step)
      (plugins.forM fun plugin => (hook plugin).watched) := by
  induction plugins with
  | nil =>
      intro s log
      obtain ⟨failure, s', more, hstep, hwatched, rfl, rfl⟩ := recorded_pure s log
      exact ⟨none, s', [], hstep, hwatched, .done⟩
  | cons plugin plugins ih =>
      refine (recorded_event (hook plugin)).seq ih ?_ ?_
      · rintro _ failure rfl
        exact .fails _ _ failure
      · rintro _ more failure rfl hmore
        exact .goesOn _ hmore

variable (plugins : List (Plugin σ)) (phase : Phase σ)

lemma forM_watched (hook : Plugin (σ × Log σ) → Step (Session (σ × Log σ)) Unit) :
    (plugins.map Plugin.watched).forM hook = plugins.forM fun plugin => hook plugin.watched := by
  induction plugins with
  | nil => rfl
  | cons plugin plugins ih =>
      show (hook plugin.watched >>= fun _ => (plugins.map Plugin.watched).forM hook) = _
      rw [ih]
      rfl

lemma recorded_beforeHooks (name : String) :
    Recorded (HookLog (beforeEvents plugins name)) (beforeHooks plugins name)
      (beforeHooks (plugins.map Plugin.watched) name) := by
  rw [beforeHooks, beforeHooks, forM_watched]
  exact recorded_forM plugins fun plugin => .before plugin name

lemma recorded_afterHooks (name : String) :
    Recorded (HookLog (afterEvents plugins name)) (afterHooks plugins name)
      (afterHooks (plugins.map Plugin.watched) name) := by
  rw [afterHooks, afterHooks, forM_watched]
  exact recorded_forM plugins fun plugin => .after plugin name

/-- The after-hooks are called whether the phase failed or not, and its failure comes first. -/
lemma recorded_runWithAfterHooks :
    Recorded (fun log failure => ∃ own hook after,
        HookLog (afterEvents plugins phase.name) after hook
        ∧ log = ⟨.ran phase, own⟩ :: after ∧ failure = own.or hook)
      (runWithAfterHooks plugins phase)
      (runWithAfterHooks (plugins.map Plugin.watched) phase.watched) := by
  intro s log
  obtain ⟨own, s₁, new, hrun, hwatched, rfl⟩ := recorded_event (.ran phase) s log
  obtain ⟨hook, s₂, after, hafter, hwatched', hlog⟩ :=
    recorded_afterHooks plugins phase.name s₁ (log ++ [⟨.ran phase, own⟩])
  refine ⟨own.or hook, s₂, ⟨.ran phase, own⟩ :: after, ?_, ?_, own, hook, after, hlog, rfl, rfl⟩
  · exact runWithAfterHooks_eq hrun hafter
  · rw [List.append_cons]
    exact runWithAfterHooks_eq hwatched hwatched'

lemma recorded_runPhase : Recorded (PhaseLog plugins phase) (runPhase plugins phase)
    (runPhase (plugins.map Plugin.watched) phase.watched) := by
  refine (recorded_beforeHooks plugins phase.name).seq (recorded_runWithAfterHooks plugins phase)
    ?_ ?_
  · intro log failure hbefore
    exact .blocked hbefore
  · rintro log _ _ hbefore ⟨own, hook, after, hafter, rfl, rfl⟩
    exact .ran hbefore hafter

lemma recorded_phases (phases : List (Phase σ)) :
    Recorded (RunLog plugins phases) (phases.forM (runPhase plugins))
      ((phases.map Phase.watched).forM (runPhase (plugins.map Plugin.watched))) := by
  induction phases with
  | nil =>
      intro s log
      obtain ⟨failure, s', more, hstep, hwatched, rfl, rfl⟩ := recorded_pure s log
      exact ⟨none, s', [], hstep, hwatched, .done⟩
  | cons phase phases ih =>
      refine (recorded_runPhase plugins phase).seq ih ?_ ?_
      · intro log failure hphase
        exact .fails phases hphase
      · intro log more failure hphase hmore
        exact .goesOn hphase hmore

/-! ## A whole run -/

/-- The run of a pipeline, watched. -/
def watchedRun (p : Pipeline σ) : Step (Session (σ × Log σ)) Unit :=
  (p.phases.map Phase.watched).forM (runPhase (p.plugins.map Plugin.watched))

/-- **The events of a run.**  Watching a run adds a log and changes neither how the run ends nor the
session it ends in.  The log is one of the logs that a run of these plugins and phases may have: the
built-in phases come first, then those of the user.  Nothing happens that is not in the plan of the
whole run, in that order, everything in the plan happens if nothing fails, and the run ends well
exactly if nothing in the log failed. -/
theorem events_of_run (p : Pipeline σ) (s : Session σ) :
    ∃ log failure s', p.run s = Step.ending failure s'
      ∧ p.watchedRun (s.withLog []) = Step.ending failure (s'.withLog log)
      ∧ RunLog p.plugins ([.normalize, .expand, .validate p.lints] ++ p.userPhases) log failure
      ∧ log.events <+: p.phases.flatMap (phaseEvents p.plugins)
      ∧ (failure = none → log.events = p.phases.flatMap (phaseEvents p.plugins))
      ∧ (failure = none ↔ log.Clean) := by
  obtain ⟨failure, s', log, hrun, hwatched, hlog⟩ := recorded_phases p.plugins p.phases s []
  exact ⟨log, failure, s', hrun, hwatched, hlog, hlog.follows.isPrefix, hlog.follows.whole,
    hlog.follows.clean⟩

/-- A phase and the hook behind it fail, and the failure of the phase counts. -/
example : ∃ s, ({
      userPhases := [⟨"audit", "Refuse everything", Step.fail (.refused "audit")⟩]
      plugins := [{
        name := "watch"
        after := fun phase =>
          if phase = "audit" then Step.fail (.refused "watch") else pure () }] } :
      Pipeline Unit).run (start {} {} ()) = .error (.refused "audit") s := ⟨_, rfl⟩

end Pipeline

end ClassBridge
