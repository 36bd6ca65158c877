import ClassBridge.Abi
import Mathlib.Data.List.Nodup

/-!
# The operations of a class

`ClassModel.lifecycleOps` lists the lifecycle operations that a class exports.  It is part of a
fixed list of eight, so the operations are pairwise distinct, and so are their suffixes, none of
which has an underscore.  The whole interface of a class is these operations followed by one for
each method (`ops_abi`, `methodFunctions_eq`), and the symbol of a function depends on its operation
alone (`symbol_of_mem_abi`).
-/

namespace ClassBridge

namespace AbiOp

/-- All lifecycle operations, in the order in which they are exported. -/
def lifecycle : List AbiOp := [.init, .new, .destroy, .clone, .assign, .move, .equals, .cmp]

lemma nodup_suffix_lifecycle : (lifecycle.map suffix).Nodup := by decide

/-- How many parameters the function of a lifecycle operation has. -/
def arity : AbiOp → Nat
  | .init => 1
  | .destroy => 1
  | .clone => 2
  | .assign => 2
  | .move => 2
  | .equals => 2
  | .cmp => 2
  | _ => 0

lemma underscore_not_mem_suffix {op : AbiOp} (h : op ∈ lifecycle) : '_' ∉ op.suffix.toList := by
  have hall : ∀ op ∈ lifecycle, '_' ∉ op.suffix.toList := by decide
  exact hall op h

end AbiOp

namespace ClassModel

variable {c : ClassModel} {symbolPrefix : String}

/-- The operation that constructs objects, if there is one. -/
def constructorOp? (c : ClassModel) : Option AbiOp :=
  if c.managedObject then (if c.managedObjectDefaultCtor then some .new else none)
  else if c.defaultCtor == .generated then some .init
  else none

/-- An operation that is there under a condition. -/
def opIf (condition : Bool) (op : AbiOp) : List AbiOp := if condition then [op] else []

/-- The lifecycle operations that a class exports. -/
def lifecycleOps (c : ClassModel) : List AbiOp :=
  c.constructorOp?.toList ++ opIf c.generateDtor .destroy ++ opIf (c.copyCtor == .generated) .clone
    ++ opIf (c.copyAssign == .generated) .assign ++ opIf c.movable .move ++ opIf c.eq .equals
    ++ opIf c.ord .cmp

/-- All operations that a class exports. -/
def ops (c : ClassModel) : List AbiOp :=
  c.lifecycleOps ++ c.methods.map fun m => .method m.name

lemma map_op_provided (condition : Bool) (f : AbiFunction) :
    (provided condition f).map (·.op) = opIf condition f.op := by
  cases condition <;> rfl

lemma map_op_constructor? (c : ClassModel) (symbolPrefix : String) :
    (c.constructor? symbolPrefix).toList.map (·.op) = c.constructorOp?.toList := by
  unfold constructor? constructorOp?
  cases c.managedObject with
  | true => cases c.managedObjectDefaultCtor <;> rfl
  | false => cases c.defaultCtor <;> rfl

lemma ops_lifecycleFunctions (c : ClassModel) (symbolPrefix : String) :
    (c.lifecycleFunctions symbolPrefix).map (·.op) = c.lifecycleOps := by
  simp only [lifecycleFunctions, List.map_append, map_op_provided, map_op_constructor?]
  rfl

/-- The operations behind the exported functions. -/
theorem ops_abi (c : ClassModel) (symbolPrefix : String) :
    (c.abi symbolPrefix).map (·.op) = c.ops := by
  rw [abi, List.map_append, ops_lifecycleFunctions, List.map_map]
  rfl

/-! ## Lifecycle operations -/

lemma opIf_sublist (condition : Bool) (op : AbiOp) : (opIf condition op).Sublist [op] := by
  cases condition with
  | true => exact List.Sublist.refl _
  | false => exact List.nil_sublist _

lemma constructorOp?_sublist (c : ClassModel) :
    c.constructorOp?.toList.Sublist [.init, .new] := by
  unfold constructorOp?
  split
  · split <;> decide
  · split <;> decide

/-- A class exports some of the eight lifecycle operations, each at most once and in order. -/
theorem lifecycleOps_sublist (c : ClassModel) : c.lifecycleOps.Sublist AbiOp.lifecycle := by
  have h := (((((c.constructorOp?_sublist.append (opIf_sublist c.generateDtor .destroy)).append
    (opIf_sublist (c.copyCtor == .generated) .clone)).append
    (opIf_sublist (c.copyAssign == .generated) .assign)).append
    (opIf_sublist c.movable .move)).append (opIf_sublist c.eq .equals)).append
    (opIf_sublist c.ord .cmp)
  exact h

lemma nodup_suffix_lifecycleOps (c : ClassModel) : (c.lifecycleOps.map AbiOp.suffix).Nodup :=
  AbiOp.nodup_suffix_lifecycle.sublist (c.lifecycleOps_sublist.map AbiOp.suffix)

lemma underscore_not_mem_lifecycleOps {op : AbiOp} (h : op ∈ c.lifecycleOps) :
    '_' ∉ op.suffix.toList :=
  AbiOp.underscore_not_mem_suffix (c.lifecycleOps_sublist.subset h)

/-- Whether a class exports a lifecycle operation, said of its flags. -/
def provides (c : ClassModel) : AbiOp → Bool
  | .init => !c.managedObject && c.defaultCtor == .generated
  | .new => c.managedObject && c.managedObjectDefaultCtor
  | .destroy => c.generateDtor
  | .clone => c.copyCtor == .generated
  | .assign => c.copyAssign == .generated
  | .move => c.movable
  | .equals => c.eq
  | .cmp => c.ord
  | .method _ => false

lemma mem_opIf {condition : Bool} {op op' : AbiOp} :
    op ∈ opIf condition op' ↔ op = op' ∧ condition = true := by
  cases condition <;> simp [opIf]

lemma constructorOp?_eq_some_iff {op : AbiOp} :
    c.constructorOp? = some op ↔ (op = .init ∨ op = .new) ∧ c.provides op = true := by
  unfold constructorOp?
  cases hmanaged : c.managedObject with
  | true =>
      cases hdefault : c.managedObjectDefaultCtor <;> cases op <;>
        simp [provides, hmanaged, hdefault]
  | false =>
      cases hdefault : c.defaultCtor <;> cases op <;> simp [provides, hmanaged, hdefault]

/-- The flags decide about each operation on its own. -/
theorem mem_lifecycleOps_iff_provides {op : AbiOp} :
    op ∈ c.lifecycleOps ↔ c.provides op = true := by
  simp only [lifecycleOps, List.mem_append, Option.mem_toList, mem_opIf,
    constructorOp?_eq_some_iff]
  cases op <;> simp [provides]

lemma mem_ops_iff_provides {op : AbiOp} (hop : op ∈ AbiOp.lifecycle) :
    op ∈ c.ops ↔ c.provides op = true := by
  rw [ops, List.mem_append, mem_lifecycleOps_iff_provides]
  constructor
  · rintro (h | h)
    · exact h
    · obtain ⟨m, -, rfl⟩ := List.mem_map.mp h
      simp [AbiOp.lifecycle] at hop
  · exact Or.inl

/-! ## Methods -/

/-- The exported functions of methods. -/
def methodFunctions (c : ClassModel) (symbolPrefix : String) : List AbiFunction :=
  (c.abi symbolPrefix).filter fun f => f.methodName?.isSome

lemma methodName?_of_mem_lifecycle {f : AbiFunction} (hop : f.op ∈ AbiOp.lifecycle) :
    f.methodName? = none := by
  unfold AbiFunction.methodName?
  split
  · rename_i name hmethod
    simp [hmethod, AbiOp.lifecycle] at hop
  · rfl

/-- There is one for each method, in order. -/
theorem methodFunctions_eq (c : ClassModel) (symbolPrefix : String) :
    c.methodFunctions symbolPrefix = c.methods.map (c.methodFunction symbolPrefix) := by
  have hlifecycle : (c.lifecycleFunctions symbolPrefix).filter (fun f => f.methodName?.isSome)
      = [] := by
    refine List.filter_eq_nil_iff.mpr fun f hf => ?_
    have hop : f.op ∈ c.lifecycleOps := by
      rw [← c.ops_lifecycleFunctions symbolPrefix]
      exact List.mem_map_of_mem hf
    rw [methodName?_of_mem_lifecycle (c.lifecycleOps_sublist.subset hop)]
    exact Bool.false_ne_true
  have hmethods : (c.methods.map (c.methodFunction symbolPrefix)).filter
      (fun f => f.methodName?.isSome) = c.methods.map (c.methodFunction symbolPrefix) := by
    refine List.filter_eq_self.mpr fun f hf => ?_
    obtain ⟨m, -, rfl⟩ := List.mem_map.mp hf
    rfl
  rw [methodFunctions, abi, List.filter_append, hlifecycle, hmethods, List.nil_append]

/-! ## Symbols -/

/-- The result of the function of a lifecycle operation. -/
def result? (c : ClassModel) : AbiOp → Option String
  | .new => some c.pointer
  | .equals => some "bool"
  | .cmp => some "signed char"
  | _ => none

/-- The parameters of the function of a lifecycle operation. -/
def receivers (c : ClassModel) : AbiOp → List (String × String)
  | .init => [("self", c.pointer)]
  | .destroy => [("self", c.pointer)]
  | .clone => [("self", c.constPointer), ("new_", c.pointer)]
  | .assign => [("self", c.pointer), ("other", c.constPointer)]
  | .move => [("self", c.pointer), ("dest", c.pointer)]
  | .equals => [("self", c.constPointer), ("other", c.constPointer)]
  | .cmp => [("self", c.constPointer), ("other", c.constPointer)]
  | _ => []

lemma eq_of_mem_provided {condition : Bool} {f g : AbiFunction} (hg : g ∈ provided condition f) :
    g = f := by
  unfold provided at hg
  split at hg
  · exact List.mem_singleton.mp hg
  · simp at hg

lemma eq_of_mem_constructor? {f : AbiFunction} (hf : f ∈ (c.constructor? symbolPrefix).toList) :
    f = c.lifecycleFunction symbolPrefix f.op (c.result? f.op) (c.receivers f.op) := by
  unfold constructor? at hf
  rw [Option.mem_toList] at hf
  split at hf
  · split at hf
    · cases hf
      rfl
    · simp at hf
  · split at hf
    · cases hf
      rfl
    · simp at hf

/-- A lifecycle function depends on its operation alone. -/
theorem eq_of_mem_lifecycleFunctions {f : AbiFunction}
    (hf : f ∈ c.lifecycleFunctions symbolPrefix) :
    f = c.lifecycleFunction symbolPrefix f.op (c.result? f.op) (c.receivers f.op) := by
  simp only [lifecycleFunctions, List.mem_append] at hf
  rcases hf with (((((h | h) | h) | h) | h) | h) | h
  · exact eq_of_mem_constructor? h
  all_goals
    rw [eq_of_mem_provided h]
    rfl

/-- How many parameters a lifecycle function has depends on its operation. -/
lemma length_params_of_mem_lifecycleFunctions {f : AbiFunction}
    (hf : f ∈ c.lifecycleFunctions symbolPrefix) : f.params.length = f.op.arity := by
  have hlength : ∀ op, (c.lifecycleFunction symbolPrefix op (c.result? op)
      (c.receivers op)).params.length = op.arity := by
    intro op
    cases op <;> rfl
  rw [eq_of_mem_lifecycleFunctions hf]
  exact hlength f.op

/-- A symbol says the class and the operation. -/
theorem symbol_of_mem_abi {f : AbiFunction} (hf : f ∈ c.abi symbolPrefix) :
    f.symbol = c.symbolOf symbolPrefix f.op := by
  rcases List.mem_append.mp hf with h | h
  · rw [eq_of_mem_lifecycleFunctions h]
    rfl
  · obtain ⟨m, -, rfl⟩ := List.mem_map.mp h
    rfl

/-- Looking up an operation gives its symbol, if the class exports it. -/
theorem symbolFor?_abi (c : ClassModel) (symbolPrefix : String) (op : AbiOp) :
    symbolFor? (c.abi symbolPrefix) op
      = if op ∈ c.ops then some (c.symbolOf symbolPrefix op) else none := by
  rw [symbolFor?, ← c.ops_abi symbolPrefix]
  cases hfind : (c.abi symbolPrefix).find? fun f => f.op == op with
  | none =>
      rw [if_neg]
      · rfl
      · intro hop
        obtain ⟨f, hf, rfl⟩ := List.mem_map.mp hop
        simpa using List.find?_eq_none.mp hfind f hf
  | some f =>
      have hf := List.mem_of_find?_eq_some hfind
      have hop : f.op = op := by simpa using List.find?_some hfind
      rw [← hop, if_pos (List.mem_map_of_mem hf), ← symbol_of_mem_abi hf]
      rfl

lemma symbolFor?_lifecycle (c : ClassModel) (symbolPrefix : String) {op : AbiOp}
    (hop : op ∈ AbiOp.lifecycle) :
    symbolFor? (c.abi symbolPrefix) op
      = if c.provides op then some (c.symbolOf symbolPrefix op) else none := by
  rw [symbolFor?_abi]
  simp only [mem_ops_iff_provides hop]

/-- The symbols of a class come from its operations. -/
lemma symbols_abi (c : ClassModel) (symbolPrefix : String) :
    (c.abi symbolPrefix).map (·.symbol) = c.ops.map (c.symbolOf symbolPrefix) := by
  rw [← c.ops_abi symbolPrefix, List.map_map]
  exact List.map_congr_left fun f hf => symbol_of_mem_abi hf

end ClassModel

end ClassBridge
