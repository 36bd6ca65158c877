import ClassBridge.Proofs.Pipeline.Events
import ClassBridge.Proofs.Pipeline.Outcome
import Mathlib.Data.List.DropRight

/-!
# Driving a compilation by hand

The phases of a pipeline work on one compilation, and nothing makes a caller run them in their
order, or once, or stop at a failure.  So a caller may make any sequence of moves on a fresh
compilation (`Move`), each on what the moves before it left, failed ones included (`reached`).

**One move.**  What a move leaves and how it ends is said once, for all moves (`Move.step_eq`): the
manifest stays, diagnostics are only added unless the move clears them, and the model is replaced,
changed or taken away.

**A sequence of moves.**  What a move records is kept in its turn, together with the compilation
that it found (`Turn`).  The diagnostics are those of all turns since the last one that cleared
them (`diagnostics_reached`), and from there every verdict of a validation is known (`Sound`).
-/

namespace ClassBridge

lemma Compilation.hasErrors_iff {c : Compilation} : c.hasErrors = true ↔ c.errors ≠ [] := by
  simp [hasErrors]

namespace Driving

/-- What a caller can do with a compilation. -/
inductive Move where
  | normalize
  | expand
  | validate (lints : List Lint)
  | push (diagnostic : Diagnostic)
  /-- Forgets all diagnostics. -/
  | clear
  | setModel (model : Model)
  /-- Changes the model in its place. -/
  | amend (change : Model → Model)
  | takeModel

namespace Move

/-- What is done in a move. -/
def step : Move → CompilationStep Unit
  | normalize => CompilationStep.normalize
  | expand => CompilationStep.expand
  | validate lints => CompilationStep.validate lints
  | push diagnostic => CompilationStep.report [diagnostic]
  | clear => CompilationStep.clear
  | setModel model => CompilationStep.setModel model
  | amend change => CompilationStep.changeModel change
  | takeModel => do
    let _ ← CompilationStep.takeModel

/-- Whether the move forgets diagnostics. -/
@[simp] def clears : Move → Bool
  | clear => true
  | _ => false

/-- The diagnostics that a move records on a compilation. -/
@[simp] def records (c : Compilation) : Move → List Diagnostic
  | expand => c.manifest.collisions
  | validate lints =>
    match c.model with
    | some model => Lint.findings lints model
    | none => []
  | push diagnostic => [diagnostic]
  | _ => []

/-- The model that a move leaves. -/
@[simp] def modelAfter (c : Compilation) : Move → Option Model
  | normalize => some (Model.declared c.manifest)
  | expand => c.model.map fun model =>
    { model with classes := model.classes ++ c.manifest.expansion }
  | setModel model => some model
  | amend change => c.model.map change
  | takeModel => none
  | _ => c.model

/-- What a move leaves. -/
def after (c : Compilation) (move : Move) : Compilation where
  manifest := c.manifest
  model := move.modelAfter c
  diagnostics := if move.clears then [] else c.diagnostics ++ move.records c

/-- Whether the move needs a model. -/
@[simp] def needsModel : Move → Bool
  | expand => true
  | validate _ => true
  | amend _ => true
  | takeModel => true
  | _ => false

/-- Whether the move looks for errors, whoever recorded them. -/
@[simp] def judges : Move → Bool
  | validate _ => true
  | _ => false

/-- How a move fails, if it does: for want of a model, or with all errors that are there after
it. -/
def failure? (c : Compilation) (move : Move) : Option Failure :=
  if move.needsModel && c.model.isNone then some .noModel
  else if move.judges && (move.after c).hasErrors then some (.invalid (move.after c).errors)
  else none

/-! ## One move -/

lemma failOnErrors_eq (c : Compilation) : CompilationStep.failOnErrors c
    = Step.ending (if c.hasErrors then some (.invalid c.errors) else none) c := by
  unfold CompilationStep.failOnErrors
  cases c.hasErrors <;> rfl

/-- With a model a validation records what the lints find, and then looks for errors. -/
lemma validate_eq {c : Compilation} {model : Model} (h : c.model = some model)
    (lints : List Lint) : CompilationStep.validate lints c
      = CompilationStep.failOnErrors (c.report (Lint.findings lints model)) := by
  have hmodel : CompilationStep.model c = .ok model c := by rw [CompilationStep.model, h]
  have hreport : CompilationStep.report (Lint.findings lints model) c
      = .ok () (c.report (Lint.findings lints model)) := rfl
  rw [CompilationStep.validate, Step.bind_of_ok hmodel, Step.bind_of_ok hreport]

/-- Without a model a validation does nothing. -/
lemma validate_of_none {c : Compilation} (h : c.model = none) (lints : List Lint) :
    CompilationStep.validate lints c = .error .noModel c := by
  obtain ⟨manifest, model, diagnostics⟩ := c
  cases h
  rfl

/-- Without a model an expansion records what collides before it fails. -/
lemma expand_of_none {c : Compilation} (h : c.model = none) :
    CompilationStep.expand c = .error .noModel (c.report c.manifest.collisions) := by
  obtain ⟨manifest, model, diagnostics⟩ := c
  cases h
  rfl

lemma takeModel_eq (c : Compilation) : takeModel.step c
    = Step.ending (if c.model.isNone then some .noModel else none) { c with model := none } := by
  obtain ⟨manifest, model, diagnostics⟩ := c
  cases model <;> rfl

/-- **One move.** -/
theorem step_eq (move : Move) (c : Compilation) :
    move.step c = Step.ending (move.failure? c) (move.after c) := by
  obtain ⟨manifest, model, diagnostics⟩ := c
  cases move with
  | normalize => simp [step, CompilationStep.normalize, failure?, after, Step.ending]
  | expand => cases model <;> rfl
  | validate lints =>
      cases model with
      | none =>
          rw [step, validate_of_none rfl]
          simp [failure?, after, Step.ending]
      | some model => exact (validate_eq rfl lints).trans (failOnErrors_eq _)
  | push diagnostic => rfl
  | clear => rfl
  | setModel model => simp [step, CompilationStep.setModel, failure?, after, Step.ending]
  | amend change =>
      cases model <;> simp [step, CompilationStep.changeModel, failure?, after, Step.ending]
  | takeModel =>
      rw [takeModel_eq]
      cases model <;> simp [failure?, after]

lemma stateAfter_step (move : Move) (c : Compilation) :
    Step.stateAfter (move.step c) = move.after c := by
  rw [step_eq]
  cases move.failure? c <;> rfl

end Move

/-! ## A sequence of moves -/

/-- The compilation after some moves, each made on what the moves before it left. -/
def reached (c : Compilation) (moves : List Move) : Compilation :=
  moves.foldl (fun c move => Step.stateAfter (move.step c)) c

/-- A move and the compilation that it is made on. -/
structure Turn where
  move : Move
  found : Compilation

/-- What is recorded in a turn. -/
def Turn.recorded (turn : Turn) : List Diagnostic := turn.move.records turn.found

/-- The turns of some moves. -/
def turns (c : Compilation) : List Move → List Turn
  | [] => []
  | move :: moves => ⟨move, c⟩ :: turns (Step.stateAfter (move.step c)) moves

/-- The turns behind the last one that forgot diagnostics. -/
def sinceClear (turns : List Turn) : List Turn := turns.rtakeWhile fun turn => !turn.move.clears

variable {c : Compilation} {moves : List Move}

lemma reached_append (c : Compilation) (moves more : List Move) :
    reached c (moves ++ more) = reached (reached c moves) more := List.foldl_append

lemma reached_concat (c : Compilation) (moves : List Move) (move : Move) :
    reached c (moves ++ [move]) = move.after (reached c moves) := by
  rw [reached_append]
  exact move.stateAfter_step _

lemma turns_concat (c : Compilation) (moves : List Move) (move : Move) :
    turns c (moves ++ [move]) = turns c moves ++ [⟨move, reached c moves⟩] := by
  induction moves generalizing c with
  | nil => rfl
  | cons first moves ih => exact congrArg (_ :: ·) (ih _)

/-- The manifest is never changed. -/
lemma manifest_reached (c : Compilation) (moves : List Move) :
    (reached c moves).manifest = c.manifest := by
  induction moves using List.reverseRecOn with
  | nil => rfl
  | append_singleton moves move ih => rw [reached_concat, Move.after, ih]

lemma sinceClear_concat (turns : List Turn) (turn : Turn) :
    sinceClear (turns ++ [turn])
      = if turn.move.clears then [] else sinceClear turns ++ [turn] := by
  by_cases h : turn.move.clears = true
  · rw [if_pos h]
    exact List.rtakeWhile_concat_neg _ _ _ (by rw [h]; decide)
  · rw [if_neg h]
    exact List.rtakeWhile_concat_pos _ _ _ (by rw [Bool.eq_false_iff.mpr h]; rfl)

/-- **What is recorded.**  The induction adds moves at the end: a move that clears leaves no turn
behind it, and any other move adds what it records. -/
theorem diagnostics_reached (h : c.diagnostics = []) (moves : List Move) :
    (reached c moves).diagnostics = (sinceClear (turns c moves)).flatMap Turn.recorded := by
  induction moves using List.reverseRecOn with
  | nil => exact h
  | append_singleton moves move ih =>
      rw [reached_concat, turns_concat, sinceClear_concat, Move.after, ih]
      cases move.clears with
      | true => rfl
      | false => exact (List.flatMap_append.trans (by rw [List.flatMap_singleton]; rfl)).symm

/-! ## What holds at any time -/

/-- Resolving and expanding makes the whole model, whatever was there before. -/
lemma reached_normalize_expand (c : Compilation) : reached c [.normalize, .expand]
    = { c.report c.manifest.collisions with model := some (Model.ofManifest c.manifest) } := by
  show Step.stateAfter (CompilationStep.expand (Step.stateAfter (CompilationStep.normalize c))) = _
  rfl

/-- What holds of a compilation that some moves lead to, and of the moves that come next. -/
structure Sound (manifest : Manifest) (moves : List Move) (c : Compilation) : Prop where
  kept : c.manifest = manifest
  recorded : c.diagnostics = (sinceClear (turns { manifest } moves)).flatMap Turn.recorded
  /-- The findings of all lints are recorded, and all errors are reported, older ones included. -/
  validated : ∀ lints model, c.model = some model → ∀ c',
    c' = c.report (lints.flatMap fun lint => lint.check model) →
    CompilationStep.validate lints c
      = if c'.errors = [] then .ok () c' else .error (.invalid c'.errors) c'
  unvalidated : c.model = none → ∀ lints, CompilationStep.validate lints c = .error .noModel c
  /-- What collides is recorded before the model is missed. -/
  unexpanded : c.model = none →
    CompilationStep.expand c = .error .noModel (c.report manifest.collisions)
  rebuilt : (reached c [.normalize, .expand]).model
    = (reached { manifest } [.normalize, .expand]).model
  whole : (reached c [.normalize, .expand]).model = some (Model.ofManifest manifest)

/-- **Driving a compilation.**  Whatever moves are made on a fresh compilation, failed ones
included, its diagnostics are what the moves since the last clearing recorded.  From there a
validation with a model records what all lints find, and fails exactly if there are errors then,
with all of them; without a model it fails and changes nothing, and an expansion fails and only
records what collides.  Resolving and expanding makes the model that it makes of a fresh
compilation. -/
theorem sound_reached (manifest : Manifest) (moves : List Move) :
    Sound manifest moves (reached { manifest } moves) where
  kept := manifest_reached _ _
  recorded := diagnostics_reached rfl moves
  validated := by
    rintro lints model hmodel c' rfl
    rw [Move.validate_eq hmodel, Move.failOnErrors_eq, Lint.findings]
    split
    · rename_i herrors
      rw [if_neg (Compilation.hasErrors_iff.mp herrors)]
      rfl
    · rename_i herrors
      rw [if_pos (not_not.mp (mt Compilation.hasErrors_iff.mpr herrors))]
      rfl
  unvalidated hmodel lints := Move.validate_of_none hmodel lints
  unexpanded hmodel := by rw [Move.expand_of_none hmodel, manifest_reached]
  rebuilt := by
    rw [reached_normalize_expand, reached_normalize_expand, manifest_reached]
  whole := by
    rw [reached_normalize_expand, manifest_reached]

/-- An error stays: after it was recorded and not forgotten every validation fails. -/
theorem validate_fails_of_recorded {manifest : Manifest} {moves : List Move} {turn : Turn}
    (hturn : turn ∈ sinceClear (turns { manifest } moves)) {error : Diagnostic}
    (herror : error ∈ turn.recorded) (hgrave : error.isError = true) (lints : List Lint) :
    ∃ failure c,
      CompilationStep.validate lints (reached { manifest } moves) = .error failure c := by
  cases hmodel : (reached { manifest } moves).model with
  | none => exact ⟨_, _, Move.validate_of_none hmodel lints⟩
  | some model =>
      have hlisted : error ∈ ((reached { manifest } moves).report
          (Lint.findings lints model)).errors := by
        refine List.mem_filter.mpr ⟨List.mem_append_left _ ?_, hgrave⟩
        rw [diagnostics_reached rfl]
        exact List.mem_flatMap_of_mem hturn herror
      have hsome := Compilation.hasErrors_iff.mpr (List.ne_nil_of_mem hlisted)
      rw [Move.validate_eq hmodel, Move.failOnErrors_eq, if_pos hsome]
      exact ⟨_, _, rfl⟩

end Driving

end ClassBridge
