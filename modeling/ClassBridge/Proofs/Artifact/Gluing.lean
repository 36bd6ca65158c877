import ClassBridge.Artifact.Glue
import ClassBridge.Proofs.Code.Findings
import ClassBridge.Proofs.Interface.Identifiers

/-!
# What the glue of a class says

What is said here of the glue is said of its text, as a reader of code sees it: which operations a
piece calls, which traits it implements, and which paths occur in it (`Glues`).  This goes through
the glue piece by piece, whatever the flags of the class are, up to everything that is written for
one class (`glues_class`).

A piece is read together with the line that opens it: what is found at its first word depends on the
token before.
-/

namespace ClassBridge.Artifact.Glue

open Code Identifier ClassModel

/-! ## Tokens of the pieces -/

lemma tokens_word_append {name : String} (hname : WellFormed name) {rest : String}
    (hrest : Opens rest) : tokens (name ++ rest) = .word name :: tokens rest := by
  rw [tokens_append_of_open _ hrest, tokens_word hname]
  rfl

lemma tokens_unchecked (code : String) :
    tokens (unchecked code)
      = .word "unsafe" :: .mark '\x7b' :: (tokens code ++ [.mark '\x7d']) := by
  have hunsafe : Closed "unsafe " := by decide
  have hopening : Closed "\x7b " := by decide
  have hclosing : Opens " \x7d" := by decide
  rw [unchecked, inBraces, tokens_append_of_closed hunsafe, tokens_append_of_open _ hclosing,
    tokens_append_of_closed hopening]
  rfl

/-! ## What a piece comes to -/

variable {symbolPrefix : String} {c : ClassModel}

/-- The call of the function of a lifecycle operation. -/
def callOf (symbolPrefix : String) (c : ClassModel) (op : AbiOp) : Call :=
  ⟨c.symbolOf symbolPrefix op, op.arity⟩

/-- What a piece of the glue of a class comes to: the operations that it calls, the traits that it
implements, and the paths that occur in it.  The other functions that it calls can be told from
exported ones: their names have no underscores. -/
def Glues (symbolPrefix : String) (c : ClassModel) (script : Script) (ops : List AbiOp)
    (traits : List String) (paths : List (String × String)) : Prop :=
  ∃ found, Reads script.tokens found
    ∧ (found.filterMap Finding.call?).filter (fun call => '_' ∈ call.callee.toList)
        = ops.map (callOf symbolPrefix c)
    ∧ found.filterMap Finding.implementation? = traits.map (·, c.name)
    ∧ found.filterMap Finding.path? = paths

namespace Glues

variable {first second script header body : Script} {ops ops' : List AbiOp}
  {traits traits' : List String} {paths paths' : List (String × String)}

/-- What is found decides. -/
lemma of_reads (found : List Finding) (h : Reads script.tokens found)
    (hcalls : (found.filterMap Finding.call?).filter (fun call => '_' ∈ call.callee.toList)
      = ops.map (callOf symbolPrefix c))
    (htraits : found.filterMap Finding.implementation? = traits.map (·, c.name))
    (hpaths : found.filterMap Finding.path? = paths) :
    Glues symbolPrefix c script ops traits paths := ⟨found, h, hcalls, htraits, hpaths⟩

/-- Nothing is found. -/
lemma silent (h : Reads script.tokens []) : Glues symbolPrefix c script [] [] [] :=
  of_reads [] h rfl rfl rfl

lemma skip : Glues symbolPrefix c .skip [] [] [] := silent Reads.nil

lemma blank : Glues symbolPrefix c .blank [] [] [] := silent Reads.nil

lemma seq (h : Glues symbolPrefix c first ops traits paths)
    (h' : Glues symbolPrefix c second ops' traits' paths') :
    Glues symbolPrefix c (.seq first second) (ops ++ ops') (traits ++ traits')
      (paths ++ paths') := by
  obtain ⟨found, hreads, hcalls, htraits, hpaths⟩ := h
  obtain ⟨found', hreads', hcalls', htraits', hpaths'⟩ := h'
  refine of_reads (found ++ found') (hreads.append hreads') ?_ ?_ ?_
  · rw [List.filterMap_append, List.filter_append, hcalls, hcalls', List.map_append]
  · rw [List.filterMap_append, htraits, htraits', List.map_append]
  · rw [List.filterMap_append, hpaths, hpaths']

/-- A body between braces, behind a line that opens it. -/
lemma braced {header : String}
    (h : Glues symbolPrefix c (.line (header ++ " \x7b")) ops traits paths)
    (h' : Glues symbolPrefix c body ops' traits' paths') :
    Glues symbolPrefix c (braced header body) (ops ++ ops') (traits ++ traits')
      (paths ++ paths') := by
  have hclose : Glues symbolPrefix c (.line "\x7d") [] [] [] := silent fun _ _ => rfl
  obtain ⟨found, hreads, hfound⟩ := (h.seq h').seq hclose
  exact ⟨found, hreads, by simpa using hfound⟩

/-- A function, the head of which shows nothing. -/
lemma inlined (header : String) (hheader : Reads (tokens (header ++ " \x7b")) [])
    (h : Glues symbolPrefix c body ops traits paths) :
    Glues symbolPrefix c (inlined header body) ops traits paths := by
  have hinline : Glues symbolPrefix c (.line "#[inline]") [] [] [] := silent fun _ _ => rfl
  have hhead : Glues symbolPrefix c (.line (header ++ " \x7b")) [] [] [] := silent hheader
  exact hinline.seq (hhead.braced h)

/-- The functions of a class itself. -/
lemma inherent (hname : WellFormed c.name) (h : Glues symbolPrefix c body ops traits paths) :
    Glues symbolPrefix c (implementation c.name body) ops traits paths := by
  have himpl : Closed "impl " := by decide
  have hhead : Glues symbolPrefix c (.line ("impl " ++ c.name ++ " \x7b")) [] [] [] := by
    refine silent ?_
    rw [Script.tokens, String.append_assoc, tokens_append_of_closed himpl,
      tokens_word_append hname (by decide)]
    exact fun _ _ => rfl
  exact blank.seq (hhead.braced h)

/-- The implementation of a trait. -/
lemma implements (trait header : String) (hheader : header = trait ++ " for ")
    (htrait : WellFormed trait) (hname : WellFormed c.name)
    (h : Glues symbolPrefix c body ops traits paths) :
    Glues symbolPrefix c (implementation (header ++ c.name) body) ops (trait :: traits) paths := by
  have himpl : Closed "impl " := by decide
  have hfor : Closed " for " := by decide
  have hopens : Opens (" for " ++ (c.name ++ " \x7b")) := by
    simp [Opens]
    decide
  have hhead : Glues symbolPrefix c (.line ("impl " ++ (header ++ c.name) ++ " \x7b")) [] [trait]
      [] := by
    refine of_reads [.implements trait c.name] ?_ rfl rfl rfl
    rw [hheader, Script.tokens, String.append_assoc, String.append_assoc, String.append_assoc,
      tokens_append_of_closed himpl, tokens_word_append htrait hopens,
      tokens_append_of_closed hfor, tokens_word_append hname (by decide)]
    exact fun _ _ => rfl
  exact blank.seq (hhead.braced h)

end Glues

/-- What the names of a class and the prefix have to be. -/
structure Spelled (symbolPrefix : String) (c : ClassModel) : Prop where
  symbolPrefix : WellFormed symbolPrefix
  name : WellFormed c.name

namespace Spelled

/-- The symbols of lifecycle functions are identifiers. -/
lemma symbol (h : Spelled symbolPrefix c) {op : AbiOp} (hop : op ∈ AbiOp.lifecycle) :
    WellFormed (c.symbolOf symbolPrefix op) :=
  wellFormed_symbolOf h.symbolPrefix h.name (isFollower_of_mem_lifecycle hop)

lemma underscore_mem (symbolPrefix : String) (c : ClassModel) (op : AbiOp) :
    '_' ∈ (c.symbolOf symbolPrefix op).toList := by simp [symbolOf]

end Spelled

/-! ## Calls -/

section Calls

variable (h : Spelled symbolPrefix c) (op : AbiOp)

include h

/-- The call of an exported function. -/
lemma glues_call (args : String) (hop : op ∈ AbiOp.lifecycle) (hargs : Opens args)
    (hreads : ∀ symbol, Reads (.word "unsafe" :: .mark '\x7b' :: .word symbol
      :: (tokens args ++ [.mark '\x7d'])) [.call ⟨symbol, op.arity⟩]) :
    Glues symbolPrefix c (.line (unchecked (c.symbolOf symbolPrefix op ++ args))) [op] [] [] := by
  refine Glues.of_reads [.call ⟨c.symbolOf symbolPrefix op, op.arity⟩] ?_ ?_ rfl rfl
  · rw [Script.tokens, tokens_unchecked, tokens_word_append (h.symbol hop) hargs]
    exact hreads _
  · simp [List.filterMap, Finding.call?, Spelled.underscore_mem, callOf]

/-- New memory is filled by a call. -/
lemma glues_filled (args : String) (hop : op ∈ AbiOp.lifecycle) (hargs : Opens args)
    (hreads : ∀ symbol, Reads (tokens "let mut ret = MaybeUninit::uninit();"
        ++ (.word symbol :: tokens args ++ (tokens "ret.assume_init()")))
      [.path "MaybeUninit" "uninit", .call ⟨"uninit", 0⟩, .call ⟨symbol, op.arity⟩]) :
    Glues symbolPrefix c (Artifact.braced "unsafe"
      (Script.all (filled (c.symbolOf symbolPrefix op ++ args)))) [op] []
      [("MaybeUninit", "uninit")] := by
  have hunsafe : Glues symbolPrefix c (.line ("unsafe" ++ " \x7b")) [] [] [] :=
    Glues.silent fun _ _ => rfl
  refine hunsafe.braced ?_
  refine Glues.of_reads [.path "MaybeUninit" "uninit", .call ⟨"uninit", 0⟩,
    .call ⟨c.symbolOf symbolPrefix op, op.arity⟩] ?_ ?_ rfl rfl
  · have htokens := hreads (c.symbolOf symbolPrefix op)
    rw [filled, Script.tokens_all]
    simpa only [List.flatMap_cons, List.flatMap_nil, List.append_nil, Script.tokens,
      tokens_word_append (h.symbol hop) hargs] using htokens
  · simp [List.filterMap, Finding.call?, Spelled.underscore_mem, callOf, AbiOp.arity]

end Calls

/-! ## The implementations of a class -/

/-- Whether the glue copies objects of a class. -/
def copies (c : ClassModel) : Bool := c.provides .clone || c.copyCtor == .trivial

/-- The operations that the glue of a class calls. -/
def calledOps (c : ClassModel) : List AbiOp :=
  c.constructorOp?.toList
    ++ (opIf (c.provides .clone) .clone ++ opIf (copies c && c.provides .assign) .assign)
    ++ opIf (c.provides .equals) .equals ++ opIf (c.provides .cmp) .cmp
    ++ opIf (c.provides .destroy) .destroy

/-- The traits that come with the constructor. -/
def constructorTraits (c : ClassModel) : List String :=
  if c.managedObject || c.defaultCtor == .suppressed then [] else ["Default"]

/-- The paths in the constructor. -/
def constructorPaths (c : ClassModel) : List (String × String) :=
  if c.managedObject then []
  else match c.defaultCtor with
    | .suppressed => []
    | .generated => [("MaybeUninit", "uninit"), (c.name, "new")]
    | .trivial => [("std", "mem"), ("mem", "zeroed"), (c.name, "new")]

/-- The paths in the body of a copy. -/
def copyBodyPaths (cloned : Bool) : List (String × String) :=
  if cloned then [("MaybeUninit", "uninit")] else [("std", "ptr"), ("ptr", "read")]

/-- The paths in the copy. -/
def copyPaths (c : ClassModel) : List (String × String) :=
  if copies c then copyBodyPaths (c.provides .clone) else []

/-- The paths in the order. -/
def orderPaths (c : ClassModel) : List (String × String) :=
  if c.provides .cmp then
    [("Ord", "cmp"), ("Ordering", "Less"), ("Ordering", "Equal"), ("Ordering", "Greater")]
  else []

/-- The paths in the glue of a class. -/
def usedPaths (c : ClassModel) : List (String × String) :=
  constructorPaths c ++ copyPaths c ++ orderPaths c

/-- Traits that are there under a condition. -/
def traitsIf (condition : Bool) (traits : List String) : List String :=
  if condition then traits else []

/-- The traits that the glue of a class implements. -/
def implementedTraits (c : ClassModel) : List String :=
  constructorTraits c ++ traitsIf (copies c) ["Clone"]
    ++ traitsIf (c.provides .equals) ["PartialEq", "Eq"]
    ++ traitsIf (c.provides .cmp) ["PartialOrd", "Ord"] ++ traitsIf (c.provides .destroy) ["Drop"]

section Pieces

variable (h : Spelled symbolPrefix c)

include h

lemma glues_new : Glues symbolPrefix c (implementation c.name (inlined "pub fn new() -> *mut Self"
    (.line (unchecked (c.symbolOf symbolPrefix .new ++ "()"))))) [.new] [] [] := by
  have hcall := glues_call h .new "()" (by decide) (by decide) fun symbol previous us => rfl
  exact Glues.inherent h.name (Glues.inlined _ (fun _ _ => rfl) hcall)

/-- A constructor by value comes with a default. -/
lemma glues_value {body : Script} {ops : List AbiOp} {paths : List (String × String)}
    (hbody : Glues symbolPrefix c body ops [] paths) :
    Glues symbolPrefix c (.seq (implementation c.name (inlined "pub fn new() -> Self" body))
      (implementation ("Default for " ++ c.name)
        (inlined "fn default() -> Self" (.line (c.name ++ "::new()"))))) ops ["Default"]
      (paths ++ [(c.name, "new")]) := by
  have hnew := Glues.inherent h.name (Glues.inlined "pub fn new() -> Self" (fun _ _ => rfl) hbody)
  have hconstruct : Glues symbolPrefix c (.line (c.name ++ "::new()")) [] [] [(c.name, "new")] := by
    refine Glues.of_reads [.path c.name "new", .call ⟨"new", 0⟩] ?_ rfl rfl rfl
    rw [Script.tokens, tokens_word_append h.name (by decide)]
    exact fun _ _ => rfl
  have hdefault := Glues.implements "Default" "Default for " (by decide) (by decide) h.name
    (Glues.inlined "fn default() -> Self" (fun _ _ => rfl) hconstruct)
  simpa using hnew.seq hdefault

lemma glues_constructor : Glues symbolPrefix c (constructorScript c (c.abi symbolPrefix))
    c.constructorOp?.toList (constructorTraits c) (constructorPaths c) := by
  unfold constructorScript valueConstructor?
  rw [symbolFor?_lifecycle _ _ (by decide), symbolFor?_lifecycle _ _ (by decide)]
  cases hmanaged : c.managedObject with
  | true =>
      cases hdefault : c.managedObjectDefaultCtor with
      | true =>
          have hnew := glues_new h
          simpa [provides, constructorOp?, constructorTraits, constructorPaths, hmanaged, hdefault]
            using hnew
      | false =>
          simpa [provides, constructorOp?, constructorTraits, constructorPaths, hmanaged, hdefault]
            using Glues.skip
  | false =>
      cases hdefault : c.defaultCtor with
      | generated =>
          have hfilled := glues_filled h .init "(ret.as_mut_ptr());" (by decide) (by decide)
            fun symbol previous us => rfl
          have hvalue := glues_value h hfilled
          simpa [provides, constructorOp?, constructorTraits, constructorPaths, hmanaged, hdefault]
            using hvalue
      | trivial =>
          have htrivial : (Lifecycle.trivial == .generated) = false := rfl
          have hzeroed : Glues symbolPrefix c (.line (unchecked "std::mem::zeroed()")) [] []
              [("std", "mem"), ("mem", "zeroed")] :=
            Glues.of_reads [.path "std" "mem", .path "mem" "zeroed", .call ⟨"zeroed", 0⟩]
              (fun _ _ => rfl) rfl rfl rfl
          have hvalue := glues_value h hzeroed
          simpa [provides, constructorOp?, constructorTraits, constructorPaths, hmanaged, hdefault,
            htrivial] using hvalue
      | suppressed =>
          have hsuppressed : (Lifecycle.suppressed == .generated) = false := rfl
          simpa [provides, constructorOp?, constructorTraits, constructorPaths, hmanaged, hdefault,
            hsuppressed] using Glues.skip

lemma glues_copyBody : Glues symbolPrefix c
    (copyBody (if c.provides .clone then some (c.symbolOf symbolPrefix .clone) else none))
    (opIf (c.provides .clone) .clone) [] (copyBodyPaths (c.provides .clone)) := by
  cases c.provides .clone with
  | true =>
      exact glues_filled h .clone "(self, ret.as_mut_ptr());" (by decide) (by decide)
        fun symbol previous us => rfl
  | false =>
      exact Glues.of_reads [.path "std" "ptr", .path "ptr" "read", .call ⟨"read", 1⟩]
        (fun _ _ => rfl) rfl rfl rfl

/-- An object is assigned to in the implementation of its copy. -/
lemma glues_clone : Glues symbolPrefix c (cloneScript c (c.abi symbolPrefix))
    (opIf (c.provides .clone) .clone ++ opIf (copies c && c.provides .assign) .assign)
    (traitsIf (copies c) ["Clone"]) (copyPaths c) := by
  have hskipped : ((if c.provides .clone then some (c.symbolOf symbolPrefix .clone)
      else none).isNone && c.copyCtor != .trivial) = !copies c := by
    cases hclone : c.provides .clone <;> simp [copies, hclone, bne]
  unfold cloneScript
  rw [symbolFor?_lifecycle _ _ (by decide), symbolFor?_lifecycle _ _ (by decide)]
  simp only [hskipped]
  cases hcopies : copies c with
  | false =>
      have hclone : c.provides .clone = false := (Bool.or_eq_false_iff.mp hcopies).1
      have hpaths : copyPaths c = [] := by rw [copyPaths, hcopies]; rfl
      rw [hclone, hpaths]
      exact Glues.skip
  | true =>
      have hpaths : copyPaths c = copyBodyPaths (c.provides .clone) := by
        rw [copyPaths, hcopies]
        rfl
      rw [hpaths]
      have hcopy := Glues.inlined "fn clone(&self) -> Self" (fun _ _ => rfl) (glues_copyBody h)
      refine Glues.implements "Clone" "Clone for " (by decide) (by decide) h.name ?_
      cases c.provides .assign with
      | false => simpa [opIf] using hcopy.seq Glues.skip
      | true =>
          have hcall := glues_call h .assign "(self, source)" (by decide) (by decide)
            fun symbol previous us => rfl
          have hassign := Glues.blank.seq
            (Glues.inlined "fn clone_from(&mut self, source: &Self)" (fun _ _ => rfl) hcall)
          simpa [opIf] using hcopy.seq hassign

lemma glues_equality : Glues symbolPrefix c (equalityScript c (c.abi symbolPrefix))
    (opIf (c.provides .equals) .equals) (traitsIf (c.provides .equals) ["PartialEq", "Eq"])
    [] := by
  unfold equalityScript
  rw [symbolFor?_lifecycle _ _ (by decide)]
  cases c.provides .equals with
  | false => exact Glues.skip
  | true =>
      have hcall := glues_call h .equals "(self, other)" (by decide) (by decide)
        fun symbol previous us => rfl
      have hpartial := Glues.implements "PartialEq" "PartialEq for " (by decide) (by decide) h.name
        (Glues.inlined "fn eq(&self, other: &Self) -> bool" (fun _ _ => rfl) hcall)
      have htotal : Glues symbolPrefix c (.line ("impl Eq for " ++ c.name ++ " \x7b\x7d")) [] ["Eq"]
          [] := by
        have himpl : Closed "impl Eq for " := by decide
        refine Glues.of_reads [.implements "Eq" c.name] ?_ rfl rfl rfl
        rw [Script.tokens, String.append_assoc, tokens_append_of_closed himpl,
          tokens_word_append h.name (by decide)]
        exact fun _ _ => rfl
      exact hpartial.seq (Glues.blank.seq (htotal.seq Glues.skip))

lemma glues_match : Glues symbolPrefix c (.line ("match "
    ++ unchecked (c.symbolOf symbolPrefix .cmp ++ "(self, other)") ++ " \x7b")) [.cmp] [] [] := by
  have hopening : Closed "match " := by decide
  refine Glues.of_reads [.call ⟨c.symbolOf symbolPrefix .cmp, 2⟩] ?_ ?_ rfl rfl
  · rw [Script.tokens, String.append_assoc, tokens_append_of_closed hopening,
      tokens_append_of_open _ (by decide), tokens_unchecked,
      tokens_word_append (h.symbol (by decide)) (by decide)]
    exact fun _ _ => rfl
  · simp [List.filterMap, Finding.call?, Spelled.underscore_mem, callOf, AbiOp.arity]

/-- The result of a comparison, as the foreign side has it.  The message of the last arm has the
symbol in it, which does not make it a call. -/
lemma glues_arms : Glues symbolPrefix c (Script.all [
    .line "-1 => Ordering::Less,",
    .line "0 => Ordering::Equal,",
    .line "1 => Ordering::Greater,",
    .line ("other => unreachable!(\"" ++ c.symbolOf symbolPrefix .cmp
      ++ " returned \x7bother\x7d\"),")]) [] []
    [("Ordering", "Less"), ("Ordering", "Equal"), ("Ordering", "Greater")] := by
  have hless : Glues symbolPrefix c (.line "-1 => Ordering::Less,") [] [] [("Ordering", "Less")] :=
    Glues.of_reads [.path "Ordering" "Less"] (fun _ _ => rfl) rfl rfl rfl
  have hequal : Glues symbolPrefix c (.line "0 => Ordering::Equal,") [] []
      [("Ordering", "Equal")] :=
    Glues.of_reads [.path "Ordering" "Equal"] (fun _ _ => rfl) rfl rfl rfl
  have hgreater : Glues symbolPrefix c (.line "1 => Ordering::Greater,") [] []
      [("Ordering", "Greater")] :=
    Glues.of_reads [.path "Ordering" "Greater"] (fun _ _ => rfl) rfl rfl rfl
  have hunreachable : Glues symbolPrefix c (.line ("other => unreachable!(\""
      ++ c.symbolOf symbolPrefix .cmp ++ " returned \x7bother\x7d\"),")) [] [] [] := by
    have hopening : Closed "other => unreachable!(\"" := by decide
    refine Glues.silent ?_
    rw [Script.tokens, String.append_assoc, tokens_append_of_closed hopening,
      tokens_word_append (h.symbol (by decide)) (by decide)]
    exact fun _ _ => rfl
  exact hless.seq (hequal.seq (hgreater.seq (hunreachable.seq Glues.skip)))

/-- The two comparisons of an ordered class: one goes through the other. -/
lemma glues_order : Glues symbolPrefix c (orderScript c (c.abi symbolPrefix))
    (opIf (c.provides .cmp) .cmp) (traitsIf (c.provides .cmp) ["PartialOrd", "Ord"])
    (orderPaths c) := by
  unfold orderScript orderPaths
  rw [symbolFor?_lifecycle _ _ (by decide)]
  cases c.provides .cmp with
  | false => exact Glues.skip
  | true =>
      have hcompare : Glues symbolPrefix c
          (inlined "fn partial_cmp(&self, other: &Self) -> Option<Ordering>"
            (.line "Some(Ord::cmp(self, other))")) [] [] [("Ord", "cmp")] :=
        Glues.of_reads [.call ⟨"Some", 1⟩, .path "Ord" "cmp", .call ⟨"cmp", 2⟩]
          (fun _ _ => rfl) rfl rfl rfl
      have hpartial := Glues.implements "PartialOrd" "PartialOrd for " (by decide) (by decide)
        h.name hcompare
      have htotal := Glues.implements "Ord" "Ord for " (by decide) (by decide) h.name
        (Glues.inlined "fn cmp(&self, other: &Self) -> Ordering" (fun _ _ => rfl)
          ((glues_match h).braced (glues_arms h)))
      exact hpartial.seq htotal

lemma glues_drop : Glues symbolPrefix c (dropScript c (c.abi symbolPrefix))
    (opIf (c.provides .destroy) .destroy) (traitsIf (c.provides .destroy) ["Drop"]) [] := by
  unfold dropScript
  rw [symbolFor?_lifecycle _ _ (by decide)]
  cases c.provides .destroy with
  | false => exact Glues.skip
  | true =>
      have hcall := glues_call h .destroy "(self)" (by decide) (by decide)
        fun symbol previous us => rfl
      exact Glues.implements "Drop" "Drop for " (by decide) (by decide) h.name
        (Glues.inlined "fn drop(&mut self)" (fun _ _ => rfl) hcall)

/-- The glue of a class. -/
theorem glues_class : Glues symbolPrefix c (classScript symbolPrefix c) (calledOps c)
    (implementedTraits c) (usedPaths c) := by
  have hparts := (glues_constructor h).seq ((glues_clone h).seq ((glues_equality h).seq
    ((glues_order h).seq ((glues_drop h).seq Glues.skip))))
  simpa [classScript, Script.all, calledOps, implementedTraits, usedPaths] using hparts

end Pieces

end ClassBridge.Artifact.Glue
