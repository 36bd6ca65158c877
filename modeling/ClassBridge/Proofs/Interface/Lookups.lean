import ClassBridge.Proofs.Interface.Operations
import ClassBridge.Proofs.Model.Names

/-!
# Looking things up in an interface

Artifacts look for the function of an operation in the interface of a class, and for the method of
a name in the class, and both times they take the first match.  `findable_of_nodup` says that the
first match is the right one in every class whose methods have distinct names.

**Operations.**  The lifecycle operations of a class are some of a fixed list without repetitions,
and none of them is a method, whatever the methods are called.  So the operations of a class are
distinct exactly if the names of its methods are (`nodup_ops_iff`).  A method named `init` may well
have the symbol of the constructor; it is still another operation, and it is looked up as one.
-/

namespace ClassBridge

namespace AbiFunction

/-- The parameters that are not objects of the class itself. -/
def ownParams (f : AbiFunction) : List Parameter :=
  (f.params.filter fun p => !p.isReceiver).map fun p => ⟨p.name, p.type⟩

/-- The function returns what a method returns, and it takes what the method takes. -/
structure Carries (f : AbiFunction) (m : MethodModel) : Prop where
  result : f.returnType = m.returnType
  params : f.ownParams = m.params

end AbiFunction

namespace ClassModel

variable {c : ClassModel}

/-! ## Operations -/

lemma nodup_lifecycleOps (c : ClassModel) : c.lifecycleOps.Nodup := by
  have hlifecycle : AbiOp.lifecycle.Nodup := by decide
  exact hlifecycle.sublist c.lifecycleOps_sublist

/-- No lifecycle operation is a method, not even one that has its name. -/
lemma method_not_mem_lifecycleOps (c : ClassModel) (name : String) :
    AbiOp.method name ∉ c.lifecycleOps := by
  rw [mem_lifecycleOps_iff_provides]
  exact Bool.false_ne_true

/-- The host constructs managed objects, and nobody else does. -/
lemma not_init_and_new (c : ClassModel) : ¬ (AbiOp.init ∈ c.ops ∧ AbiOp.new ∈ c.ops) := by
  rw [mem_ops_iff_provides (by decide), mem_ops_iff_provides (by decide)]
  cases hmanaged : c.managedObject <;> simp [provides, hmanaged]

/-- The operations of a class are distinct if its methods have distinct names, and only then. -/
theorem nodup_ops_iff (c : ClassModel) : c.ops.Nodup ↔ (c.methods.map (·.name)).Nodup := by
  have hinjective : Function.Injective AbiOp.method := fun _ _ h => AbiOp.method.inj h
  have hmethods : (c.methods.map fun m => AbiOp.method m.name)
      = (c.methods.map (·.name)).map AbiOp.method := by
    rw [List.map_map]
    rfl
  rw [ops, List.nodup_append, hmethods, List.nodup_map_iff hinjective]
  refine ⟨fun h => h.2.1, fun h => ⟨c.nodup_lifecycleOps, h, ?_⟩⟩
  rintro op hop _ hmethod rfl
  obtain ⟨name, -, rfl⟩ := List.mem_map.mp hmethod
  exact c.method_not_mem_lifecycleOps name hop

/-! ## Lookups -/

lemma ownParams_methodFunction (c : ClassModel) (symbolPrefix : String) (m : MethodModel) :
    (c.methodFunction symbolPrefix m).ownParams = m.params := by
  have hreceiver : (c.receiver m).filter (fun p => !p.isReceiver) = [] := by
    unfold receiver
    split <;> rfl
  have hparams : (m.params.map fun p => (⟨p.name, p.type, false⟩ : AbiParam)).filter
      (fun p => !p.isReceiver) = m.params.map fun p => ⟨p.name, p.type, false⟩ := by
    refine List.filter_eq_self.mpr fun p hp => ?_
    obtain ⟨_, -, rfl⟩ := List.mem_map.mp hp
    rfl
  rw [AbiFunction.ownParams, methodFunction, List.filter_append, hreceiver, hparams,
    List.nil_append, List.map_map]
  exact List.map_id _

/-- A function with the name of a method is the function of a method of that name. -/
lemma exists_of_methodName? {symbolPrefix : String} {f : AbiFunction}
    (hf : f ∈ c.abi symbolPrefix) {name : String} (hname : f.methodName? = some name) :
    ∃ m ∈ c.methods, m.name = name ∧ f = c.methodFunction symbolPrefix m := by
  have hmem : f ∈ c.methodFunctions symbolPrefix :=
    List.mem_filter.mpr ⟨hf, by rw [hname]; rfl⟩
  rw [methodFunctions_eq] at hmem
  obtain ⟨m, hm, rfl⟩ := List.mem_map.mp hmem
  exact ⟨m, hm, Option.some.inj hname, rfl⟩

/-- The first match is the right one, for every function of a class and for every method. -/
structure Findable (symbolPrefix : String) (c : ClassModel) : Prop where
  /-- No two functions perform the same operation. -/
  distinct : ((c.abi symbolPrefix).map (·.op)).Nodup
  /-- A method may be named like a lifecycle operation, but it is not that operation. -/
  apart : ∀ f ∈ c.lifecycleFunctions symbolPrefix, ∀ m ∈ c.methods, f.op ≠ .method m.name
  oneConstructor : ¬ ((∃ f ∈ c.abi symbolPrefix, f.op = .init)
    ∧ ∃ f ∈ c.abi symbolPrefix, f.op = .new)
  /-- The first function that performs the operation of a function is the function itself. -/
  function : ∀ f ∈ c.abi symbolPrefix,
    (c.abi symbolPrefix).find? (fun g => g.op == f.op) = some f
  symbol : ∀ f ∈ c.abi symbolPrefix,
    symbolFor? (c.abi symbolPrefix) f.op = some f.symbol
  /-- The first method of the name of a function is the method that the function is made from. -/
  method : ∀ f ∈ c.abi symbolPrefix, ∀ name, f.methodName? = some name →
    ∃ m ∈ c.methods, m.name = name ∧ c.method? name = some m ∧ f.Carries m

/-- **Lookups.**  If the methods of a class have distinct names, then the functions that it exports
perform distinct operations, each of them is found by its operation and has the symbol that is found
with it, and each function of a method leads by its name to the method whose result and parameters
it has. -/
theorem findable_of_nodup (hnames : (c.methods.map (·.name)).Nodup) (symbolPrefix : String) :
    c.Findable symbolPrefix := by
  have hdistinct : ((c.abi symbolPrefix).map (·.op)).Nodup := by
    rw [ops_abi, nodup_ops_iff]
    exact hnames
  have hfunction : ∀ f ∈ c.abi symbolPrefix,
      (c.abi symbolPrefix).find? (fun g => g.op == f.op) = some f :=
    fun f hf => find?_eq_some_of_nodup hdistinct hf
  refine ⟨hdistinct, ?_, ?_, hfunction, ?_, ?_⟩
  · intro f hf m _ hop
    have hmem : f.op ∈ c.lifecycleOps := by
      rw [← c.ops_lifecycleFunctions symbolPrefix]
      exact List.mem_map_of_mem hf
    rw [hop] at hmem
    exact c.method_not_mem_lifecycleOps m.name hmem
  · rw [← List.mem_map, ← List.mem_map, ops_abi]
    exact c.not_init_and_new
  · intro f hf
    rw [symbolFor?, hfunction f hf]
    rfl
  · intro f hf name hname
    obtain ⟨m, hm, rfl, rfl⟩ := exists_of_methodName? hf hname
    exact ⟨m, hm, rfl, find?_eq_some_of_nodup hnames hm, rfl,
      c.ownParams_methodFunction symbolPrefix m⟩

/-- A class whose methods are named like lifecycle operations, some of which it exports. -/
def namesakeClass : ClassModel :=
  ClassDecl.model "Url" { defaultCtor := .generated, movable := true, methods := [
    ("init", { params := [("flags", "int")], returnType := some "bool" }),
    ("new", { isStatic := true }),
    ("destroy", { params := [("other", "Url*"), ("flags", "int")], isConst := true })] } .declared

theorem findable_namesakeClass :
    (namesakeClass.methods.map (·.name)).Nodup
      ∧ namesakeClass.Findable "ffi"
      ∧ (namesakeClass.abi "ffi").map (·.op)
        = [.init, .destroy, .move, .method "init", .method "new", .method "destroy"]
      ∧ (namesakeClass.abi "ffi").map (·.symbol)
        = ["ffi_Url_init", "ffi_Url_destroy", "ffi_Url_move", "ffi_Url_init", "ffi_Url_new",
          "ffi_Url_destroy"] := by
  have hnames : (namesakeClass.methods.map (·.name)).Nodup := by decide
  exact ⟨hnames, findable_of_nodup hnames "ffi", by decide, by decide⟩

end ClassModel

end ClassBridge
