import ClassBridge.Artifact.Wrapper
import ClassBridge.Proofs.Artifact.FollowsAbi
import ClassBridge.Proofs.Code.Applications
import ClassBridge.Proofs.Model.Expanded

/-!
# The wrappers call what is exported

The wrapper of a container looks up six method functions under names of its own, and a name that is
not found would be written as nothing at all.  `wrapped_of_compile` says that this never happens,
and that the wrappers of a compiled manifest fit what is exported for its containers.

**Lookups.**  The names that the wrapper looks up are those of the methods of a container, whatever
its element is (`all_methodSymbols`), so the six symbols are those of the exported method functions.

**Applications.**  The text of a wrapper is read piece by piece (`Applying`).  Words of the fixed
text are told from symbols by their underscores, of which a symbol has two at least.  What is left
are `from_raw_parts` and `extend_from_slice`, which do not stand alone, and the spelling of the
element, which may be any text: it is only asked for that no symbol is a word of it.

**Construction.**  The wrapper makes a new container to copy a slice into.  The glue of a container
has the constructor that this takes, because containers are constructed by value.
-/

namespace ClassBridge.Artifact.Wrapper

open Code Text Identifier ClassModel

/-- The six symbols, in the order in which the functions are exported. -/
def MethodSymbols.all (m : MethodSymbols) : List String :=
  [m.size, m.asSlice, m.append, m.appendList, m.appendSlice, m.reserve]

/-- The symbols that the wrapper of a container finds. -/
def methodSymbols (symbolPrefix : String) (c : ClassModel) : MethodSymbols :=
  .ofAbi (c.abi symbolPrefix)

/-! ## Pieces of a wrapper -/

/-- In a piece of code these functions are applied to these arguments. -/
def Applying (names : List String) (script : Script) (uses : List (String × List String)) : Prop :=
  Applies names script.tokens uses

/-- What the texts that go into a wrapper have to be. -/
structure Fitting (names : List String) (name element : String) (m : MethodSymbols) : Prop where
  underscores : ∀ symbol ∈ names, 2 ≤ symbol.toList.count '_'
  name : WellFormed name
  element : ∀ symbol ∈ names, .word symbol ∉ tokens element
  symbols : ∀ symbol ∈ m.all, symbol ∈ names ∧ WellFormed symbol

variable {names : List String} {name element : String} {m : MethodSymbols}

/-- Marks apply nothing. -/
lemma applies_mark (c : Char) : Applies names [.mark c] [] :=
  applies_of_not_mem fun _ hmem => by simp at hmem

namespace Applying

variable {body : Script} {uses : List (String × List String)}

lemma blank : Applying names .blank [] := Applies.nil

lemma line {text : String} (h : Applies names (tokens text) uses) :
    Applying names (.line text) uses := h

/-- Scripts one after the other. -/
lemma all {scripts : List Script} (usess : List (List (String × List String)))
    (h : List.Forall₂ (Applying names) scripts usess) :
    Applying names (Script.all scripts) usess.flatten := by
  induction h with
  | nil => exact Applies.nil
  | cons hscript _ ih => exact Applies.append hscript ih

lemma nested (h : Applying names body uses) : Applying names (.nested body) uses := by
  have hnested : Applies names (body.tokens ++ []) uses := by rwa [List.append_nil]
  exact hnested

/-- A body between braces, behind a line in which nothing is applied. -/
lemma braced {header : String} (h : Applies names (tokens (header ++ " \x7b")) [])
    (h' : Applying names body uses) : Applying names (braced header body) uses := by
  have hbraced := (h.append h').append (applies_mark '\x7d')
  rwa [List.nil_append, List.append_nil] at hbraced

/-- What is applied in the text of a script. -/
lemma forall₂_write {script : Script} (h : Applying names script uses) (indent : Indent) :
    List.Forall₂ AppliedTo uses (applications names (script.write indent)) := by
  refine Applies.forall₂ ?_
  rw [Script.tokens_write]
  exact h

end Applying

/-- No word of the text has the underscores of a symbol. -/
def Plain (text : String) : Prop := ∀ token ∈ tokens text, token.underscores < 2

instance (text : String) : Decidable (Plain text) := inferInstanceAs (Decidable (∀ _ ∈ _, _))

/-- A text between texts that keep apart from it. -/
lemma tokens_around {before after : String} (hclosed : Closed before) (hopens : Opens after)
    (text : String) :
    tokens (before ++ text ++ after) = tokens before ++ tokens text ++ tokens after := by
  rw [tokens_append_of_open _ hopens, tokens_append_of_closed hclosed]

section Pieces

variable (h : Fitting names name element m)

include h

lemma applies_plain {text : String} (hplain : Plain text) : Applies names (tokens text) [] :=
  applies_of_underscores h.underscores hplain

lemma applies_element : Applies names (tokens element) [] :=
  applies_of_not_mem fun word hword hmem => h.element word hmem hword

/-- The spelling of the element between texts that keep apart from it. -/
lemma applies_around {before after : String} (hclosed : Closed before) (hopens : Opens after)
    (hbefore : Applies names (tokens before) []) (hafter : Applies names (tokens after) []) :
    Applies names (tokens (before ++ element ++ after)) [] := by
  rw [tokens_around hclosed hopens]
  exact (hbefore.append (applies_element h)).append hafter

lemma applies_spelled {before after : String}
    (hfixed : Closed before ∧ Opens after ∧ Plain before ∧ Plain after) :
    Applies names (tokens (before ++ element ++ after)) [] := by
  obtain ⟨hclosed, hopens, hbefore, hafter⟩ := hfixed
  exact applies_around h hclosed hopens (applies_plain h hbefore) (applies_plain h hafter)

/-- The spelling of the element in a line that opens a body. -/
lemma applies_header {before after : String}
    (hfixed : Closed before ∧ Opens (after ++ " \x7b") ∧ Plain before ∧ Plain (after ++ " \x7b")) :
    Applies names (tokens (before ++ element ++ after ++ " \x7b")) [] := by
  rw [String.append_assoc]
  exact applies_spelled h hfixed

/-- Fixed text in which one word may be a symbol but does not stand alone. -/
lemma applies_library {text : String} (before : String) {dependence : Token} (word after : String)
    (hdependence : standsAlone (some dependence) = false)
    (htokens : tokens text
      = tokens before ++ dependence :: .word word :: .mark '(' :: tokens after)
    (hfixed : Plain before ∧ Plain after) : Applies names (tokens text) [] := by
  rw [htokens]
  exact (applies_plain h hfixed.1).append
    (applies_dependent hdependence word '(' (applies_plain h hfixed.2))

/-- A method function is called in the body of a function. -/
lemma applying_call {header symbol rest : String} {arguments : List String}
    (hheader : Applies names (tokens (header ++ " \x7b")) []) (hsymbol : symbol ∈ m.all)
    (hopens : Opens rest) (after : List Token)
    (hrest : tokens rest = .mark '(' :: (argumentTokens arguments ++ after))
    (hnothing : Applies names (argumentTokens arguments ++ after) []) :
    Applying names (braced header (.line (unchecked (symbol ++ rest)))) [(symbol, arguments)] := by
  obtain ⟨hmem, hwellFormed⟩ := h.symbols symbol hsymbol
  have hunsafe : Applies names [.word "unsafe"] [] :=
    applies_of_underscores h.underscores (by decide)
  have hbrace : standsAlone (some (.mark '\x7b')) = true := rfl
  have hcall := applies_call hbrace hmem
    ((List.prefix_append (argumentTokens arguments) after).trans (List.prefix_append _ _))
    (hnothing.append (applies_mark '\x7d'))
  refine Applying.braced hheader (.line ?_)
  rw [Glue.tokens_unchecked, Glue.tokens_word_append hwellFormed hopens, hrest]
  exact hunsafe.append hcall

/-- The same where all but the symbol is fixed. -/
lemma applying_fixed_call {header symbol rest : String} {arguments : List String}
    (hheader : Applies names (tokens (header ++ " \x7b")) []) (hsymbol : symbol ∈ m.all)
    (after : List Token)
    (hfixed : Opens rest ∧ tokens rest = .mark '(' :: (argumentTokens arguments ++ after)
      ∧ Plain rest) :
    Applying names (braced header (.line (unchecked (symbol ++ rest)))) [(symbol, arguments)] := by
  obtain ⟨hopens, hrest, hplain⟩ := hfixed
  refine applying_call h hheader hsymbol hopens after hrest
    (applies_of_underscores h.underscores fun token htoken => hplain token ?_)
  rw [hrest]
  exact List.mem_cons_of_mem _ htoken

/-! ### The operations -/

lemma applying_len : Applying names
    (braced "pub fn len(&self) -> usize" (.line (unchecked (m.size ++ "(self) as usize"))))
    [(m.size, ["self"])] :=
  applying_fixed_call h (applies_plain h (by decide)) (by simp [MethodSymbols.all])
    [.word "as", .word "usize"] (by decide)

lemma applying_isEmpty : Applying names
    (braced "pub fn is_empty(&self) -> bool" (.line "self.len() == 0")) [] :=
  Applying.braced (applies_plain h (by decide)) (.line (applies_plain h (by decide)))

/-- A symbol is called behind an equals sign. -/
lemma applies_pointer : Applies names (tokens ("let ptr = " ++ m.asSlice ++ "(self, &mut size);"))
    [(m.asSlice, ["self", "&mut size"])] := by
  obtain ⟨hmem, hwellFormed⟩ := h.symbols m.asSlice (by simp [MethodSymbols.all])
  have hopening : Closed "let ptr = " := by decide
  have hequals : standsAlone (some (.mark '=')) = true := rfl
  have hpointer : Applies names [.word "let", .word "ptr"] [] :=
    applies_of_underscores h.underscores (by decide)
  have harguments : argumentTokens ["self", "&mut size"] <+: tokens "self, &mut size);" :=
    ⟨[.mark ';'], by decide⟩
  have hbefore : tokens "let ptr = " = [.word "let", .word "ptr"] ++ [.mark '='] := by decide
  have hafter : tokens "(self, &mut size);" = .mark '(' :: tokens "self, &mut size);" := by decide
  have hsymbol := applies_call hequals hmem harguments (applies_plain h (by decide))
  rw [String.append_assoc, tokens_append_of_closed hopening,
    Glue.tokens_word_append hwellFormed (by decide), hbefore, hafter, List.append_assoc]
  exact hpointer.append hsymbol

lemma applying_asSlice : Applying names
    (braced ("pub fn as_slice(&self) -> &[" ++ element ++ "]")
      (braced "unsafe" (Script.all [
        .line "let mut size = 0;",
        .line ("let ptr = " ++ m.asSlice ++ "(self, &mut size);"),
        .block "if ptr.is_null() \x7b" "\x7d else \x7b" (.line "&[]"),
        .nested (.line
          ("std::slice::from_raw_parts(ptr as *const " ++ element ++ ", size as usize)")),
        .line "\x7d"]))) [(m.asSlice, ["self", "&mut size"])] := by
  have hheader : Applies names
      (tokens ("pub fn as_slice(&self) -> &[" ++ element ++ "]" ++ " \x7b")) [] :=
    applies_header h (by decide)
  have hnull : Applying names (.block "if ptr.is_null() \x7b" "\x7d else \x7b" (.line "&[]")) [] :=
    applies_of_underscores h.underscores (by decide)
  have hbefore : Applies names (tokens "std::slice::from_raw_parts(ptr as *const ") [] := by
    have hpath : standsAlone (some (.mark ':')) = false := rfl
    exact applies_library h "std::slice:" "from_raw_parts" "ptr as *const " hpath
      (by decide +kernel) (by decide)
  have hslice : Applies names (tokens
      ("std::slice::from_raw_parts(ptr as *const " ++ element ++ ", size as usize)")) [] :=
    applies_around h (by decide) (by decide) hbefore (applies_plain h (by decide))
  refine Applying.braced hheader (Applying.braced (applies_plain h (by decide)) ?_)
  exact Applying.all [[], [(m.asSlice, ["self", "&mut size"])], [], [], []]
    (.cons (.line (applies_plain h (by decide))) (.cons (.line (applies_pointer h)) (.cons hnull
      (.cons (.nested (.line hslice)) (.cons (.line (applies_mark '\x7d')) .nil)))))

/-- The element is part of an argument. -/
lemma applying_push : Applying names
    (braced ("pub fn push(&mut self, item: &" ++ element ++ ")")
      (.line (unchecked (m.append ++ "(self, item as *const " ++ element ++ " as *const _)"))))
    [(m.append, ["self", "item as *const " ++ element ++ " as *const _"])] := by
  have hopens : Opens ("(self, item as *const " ++ element ++ " as *const _)") := by
    simp [Opens]
    decide
  have hitem : argumentTokens ["self", "item as *const " ++ element ++ " as *const _"]
      = tokens "self, item as *const " ++ tokens element ++ tokens " as *const _)" := by
    have hlast : tokens " as *const _)" = tokens " as *const _" ++ [.mark ')'] := by decide
    have hself : tokens "self, item as *const "
        = tokens "self" ++ .mark ',' :: tokens "item as *const " := by decide
    rw [argumentTokens_cons_cons, argumentTokens_singleton, tokens_around (by decide) (by decide),
      hlast, hself]
    simp only [List.append_assoc, List.cons_append]
  have hrest : tokens ("(self, item as *const " ++ element ++ " as *const _)")
      = .mark '(' :: (argumentTokens ["self", "item as *const " ++ element ++ " as *const _"]
        ++ []) := by
    have hopening : tokens "(self, item as *const "
        = .mark '(' :: tokens "self, item as *const " := by decide
    rw [hitem, tokens_around (by decide) (by decide), hopening, List.append_nil]
    rfl
  have hnothing : Applies names
      (argumentTokens ["self", "item as *const " ++ element ++ " as *const _"] ++ []) [] := by
    rw [hitem, List.append_nil]
    exact ((applies_plain h (by decide)).append (applies_element h)).append
      (applies_plain h (by decide))
  have hheader : Applies names
      (tokens ("pub fn push(&mut self, item: &" ++ element ++ ")" ++ " \x7b")) [] :=
    applies_header h (by decide)
  have hsymbol : m.append ∈ m.all := by simp [MethodSymbols.all]
  have hcall := applying_call h hheader hsymbol hopens [] hrest hnothing
  rw [← String.append_assoc, ← String.append_assoc] at hcall
  exact hcall

lemma applying_extend : Applying names
    (braced ("pub fn extend_from_slice(&mut self, items: &[" ++ element ++ "])")
      (.line (unchecked (m.appendSlice ++ "(self, items.as_ptr() as *const _, items.len() as _)"))))
    [(m.appendSlice, ["self", "items.as_ptr() as *const _", "items.len() as _"])] := by
  have hbefore : Applies names (tokens "pub fn extend_from_slice(&mut self, items: &[") [] := by
    have hdefinition : standsAlone (some (.word "fn")) = false := rfl
    exact applies_library h "pub" "extend_from_slice" "&mut self, items: &[" hdefinition
      (by decide +kernel) (by decide)
  have hheader : Applies names (tokens ("pub fn extend_from_slice(&mut self, items: &[" ++ element
      ++ "])" ++ " \x7b")) [] := by
    rw [String.append_assoc]
    exact applies_around h (by decide) (by decide) hbefore (applies_plain h (by decide))
  exact applying_fixed_call h hheader (by simp [MethodSymbols.all]) [] (by decide +kernel)

lemma applying_append : Applying names
    (braced "pub fn append(&mut self, other: &Self)"
      (.line (unchecked (m.appendList ++ "(self, other)")))) [(m.appendList, ["self", "other"])] :=
  applying_fixed_call h (applies_plain h (by decide)) (by simp [MethodSymbols.all]) [] (by decide)

lemma applying_reserve : Applying names
    (braced "pub fn reserve(&mut self, additional: usize)"
      (.line (unchecked (m.reserve ++ "(self, additional as _)"))))
    [(m.reserve, ["self", "additional as _"])] :=
  applying_fixed_call h (applies_plain h (by decide)) (by simp [MethodSymbols.all]) [] (by decide)

/-- The applications in a wrapper, in the order of the text. -/
def uses (element : String) (m : MethodSymbols) : List (String × List String) := [
  (m.size, ["self"]),
  (m.asSlice, ["self", "&mut size"]),
  (m.append, ["self", "item as *const " ++ element ++ " as *const _"]),
  (m.appendSlice, ["self", "items.as_ptr() as *const _", "items.len() as _"]),
  (m.appendList, ["self", "other"]),
  (m.reserve, ["self", "additional as _"])]

lemma applying_operations : Applying names (operations element m) (uses element m) := by
  have hinline : Applying names (.line "#[inline]") [] := .line (applies_plain h (by decide))
  exact Applying.all
    [[], [_], [], [], [], [], [_], [], [], [_], [], [_], [], [], [_], [], [], [_]]
    (.cons hinline (.cons (applying_len h) (.cons .blank
      (.cons hinline (.cons (applying_isEmpty h) (.cons .blank
        (.cons (applying_asSlice h) (.cons .blank
          (.cons hinline (.cons (applying_push h) (.cons .blank
            (.cons (applying_extend h) (.cons .blank
              (.cons hinline (.cons (applying_append h) (.cons .blank
                (.cons hinline (.cons (applying_reserve h) .nil))))))))))))))))))

/-! ### The whole wrapper -/

/-- The name of the container ends a line that opens something: it is not applied there. -/
lemma applies_opening {before : String} (hclosed : Closed before)
    (hbefore : Applies names (tokens before) []) :
    Applies names (tokens (before ++ name ++ " \x7b")) [] := by
  have hopening : Applies names [.word name, .mark '\x7b'] [] := fun _ _ => ⟨[], rfl, .nil⟩
  have hbrace : tokens " \x7b" = [.mark '\x7b'] := by decide
  rw [tokens_around hclosed (by decide), tokens_word h.name, hbrace, List.append_assoc]
  exact hbefore.append hopening

lemma applying_deref : Applying names (braced ("impl Deref for " ++ name) (Script.all [
    .line ("type Target = [" ++ element ++ "];"),
    .blank,
    .line "#[inline]",
    braced "fn deref(&self) -> &Self::Target" (.line "self.as_slice()")])) [] := by
  have htarget : Applies names (tokens ("type Target = [" ++ element ++ "];")) [] :=
    applies_spelled h (by decide)
  have hbody : Applying names (braced "fn deref(&self) -> &Self::Target" (.line "self.as_slice()"))
      [] := .braced (applies_plain h (by decide)) (.line (applies_plain h (by decide)))
  exact .braced (applies_opening h (by decide) (applies_plain h (by decide)))
    (Applying.all [[], [], [], []] (.cons (.line htarget) (.cons .blank
      (.cons (.line (applies_plain h (by decide))) (.cons hbody .nil)))))

lemma applying_from : Applying names (braced ("impl From<&[" ++ element ++ "]> for " ++ name)
    (braced ("fn from(items: &[" ++ element ++ "]) -> Self") (Script.all [
      .line "let mut list = Self::new();",
      .line "list.extend_from_slice(items);",
      .line "list"]))) [] := by
  have hclosed : Closed ("impl From<&[" ++ element ++ "]> for ") :=
    closed_append _ (by decide) (by decide)
  have hslice : Applies names (tokens ("impl From<&[" ++ element ++ "]> for ")) [] :=
    applies_spelled h (by decide)
  have hheader : Applies names
      (tokens ("fn from(items: &[" ++ element ++ "]) -> Self" ++ " \x7b")) [] :=
    applies_header h (by decide)
  have hextend : Applies names (tokens "list.extend_from_slice(items);") [] := by
    have hmethod : standsAlone (some (.mark '.')) = false := rfl
    exact applies_library h "list" "extend_from_slice" "items);" hmethod (by decide +kernel)
      (by decide)
  exact .braced (applies_opening h hclosed hslice) (.braced hheader
    (Applying.all [[], [], []] (.cons (.line (applies_plain h (by decide)))
      (.cons (.line hextend) (.cons (.line (applies_plain h (by decide))) .nil)))))

/-- What is applied in the wrapper of a container. -/
theorem applying_container :
    Applying names (containerScript name element m) (uses element m) := by
  have hinherent : Applying names (braced ("impl " ++ name) (operations element m))
      (uses element m) :=
    .braced (applies_opening h (by decide) (applies_plain h (by decide))) (applying_operations h)
  exact Applying.all [[], uses element m, [], [], [], []] (.cons .blank (.cons hinherent
    (.cons .blank (.cons (applying_deref h) (.cons .blank (.cons (applying_from h) .nil))))))

end Pieces

/-! ## The wrapper of a container -/

/-- What is written for a class. -/
def part (symbolPrefix : String) (c : ClassModel) : String :=
  (classScript symbolPrefix c).write indent

lemma depthAfter_classScript (symbolPrefix : String) (c : ClassModel) :
    (classScript symbolPrefix c).depthAfter 0 = 0 := by
  unfold classScript
  split <;> rfl

/-- The wrappers are a head and one part for each container. -/
lemma render_eq (model : Model) : render model
    = (head model.settings).write indent
      ++ String.join (model.containers.map (part model.settings.symbolPrefix)) := by
  rw [render, script, Script.write_seq rfl,
    Script.write_each_of_depthAfter fun c _ => depthAfter_classScript _ c]
  rfl

/-- How the constructor of a container begins. -/
def constructor (name : String) : List String :=
  ["impl " ++ name ++ " \x7b", "#[inline]", "pub fn new() -> Self \x7b"]

/-- How the conversion from a slice begins. -/
def conversion (name element : String) : List String := [
  "impl From<&[" ++ element ++ "]> for " ++ name ++ " \x7b",
  "fn from(items: &[" ++ element ++ "]) -> Self \x7b",
  "let mut list = Self::new();"]

section Container

variable (symbolPrefix : String) (i : Instantiation) (name : String) (config : ContainerTemplate)

/-- The names that are looked up are those of the methods of a container. -/
lemma all_ofAbi (abi : List AbiFunction) : (MethodSymbols.ofAbi abi).all
    = Instantiation.methodKeys.map fun key => (symbolFor? abi (.method key)).getD "" := rfl

/-- The wrapper finds the symbols of the six methods. -/
theorem all_methodSymbols : (methodSymbols symbolPrefix (i.model name config)).all
    = Instantiation.methodKeys.map fun key =>
      (i.model name config).symbolOf symbolPrefix (.method key) := by
  have hlookup : ∀ key ∈ Instantiation.methodKeys,
      (symbolFor? ((i.model name config).abi symbolPrefix) (.method key)).getD ""
        = (i.model name config).symbolOf symbolPrefix (.method key) := by
    intro key hkey
    have hop : AbiOp.method key ∈ (i.model name config).ops :=
      List.mem_append_right _ (List.mem_map_of_mem hkey)
    rw [symbolFor?_abi, if_pos hop]
    rfl
  rw [methodSymbols, all_ofAbi]
  exact List.map_congr_left hlookup

/-- No symbol is missing. -/
lemma empty_not_mem_all : "" ∉ (methodSymbols symbolPrefix (i.model name config)).all := by
  intro hmissing
  rw [all_methodSymbols] at hmissing
  obtain ⟨key, -, hkey⟩ := List.mem_map.mp hmissing
  have hmany := (i.model name config).two_le_count_underscore_symbolOf symbolPrefix (.method key)
  rw [hkey] at hmany
  exact absurd hmany (by decide)

lemma nodup_all : (methodSymbols symbolPrefix (i.model name config)).all.Nodup := by
  have hkeys : Instantiation.methodKeys.Nodup := by decide
  rw [all_methodSymbols]
  exact hkeys.map (append_left_injective _)

lemma all_eq_methodFunctions : (methodSymbols symbolPrefix (i.model name config)).all
    = ((i.model name config).methodFunctions symbolPrefix).map (·.symbol) := by
  rw [all_methodSymbols, methodFunctions_eq, List.map_map]
  rfl

/-- What the functions of the six methods look like from outside. -/
lemma calls_methodFunctions : ((i.model name config).methodFunctions symbolPrefix).map
      (fun f => (⟨f.symbol, f.params.length⟩ : Call))
    = (methodSymbols symbolPrefix (i.model name config)).all.zipWith Call.mk
        [1, 2, 2, 2, 3, 2] := by
  rw [methodFunctions_eq, all_methodSymbols]
  rfl

/-- The last piece of a wrapper is the conversion from a slice. -/
lemma converts_model : Contains (part symbolPrefix (i.model name config))
    (conversion name i.foreign) := by
  have hself : "]) -> Self" ++ " \x7b" = "]) -> Self \x7b" := by decide
  obtain ⟨scripts, body, hscript⟩ : ∃ scripts body,
      classScript symbolPrefix (i.model name config) = Script.all (scripts
        ++ [braced ("impl From<&[" ++ i.foreign ++ "]> for " ++ name)
          (braced ("fn from(items: &[" ++ i.foreign ++ "]) -> Self")
            (.seq (.line "let mut list = Self::new();") body))]) :=
    ⟨[_, _, _, _, _], _, rfl⟩
  refine ⟨scripts.flatMap Script.tokens, body.tokens ++ (tokens "\x7d" ++ tokens "\x7d"), ?_⟩
  rw [part, Script.tokens_write, hscript, Script.tokens_all, List.flatMap_append,
    List.flatMap_singleton]
  simp only [conversion, braced, Script.tokens, List.flatMap_cons, List.flatMap_nil,
    String.append_assoc, List.append_assoc, List.nil_append, hself]

/-- A container is constructed by value. -/
lemma constructorScript_model : ∃ body after,
    Glue.constructorScript (i.model name config) ((i.model name config).abi symbolPrefix)
      = .seq (Glue.implementation name (Glue.inlined "pub fn new() -> Self" body)) after := by
  unfold Glue.constructorScript Glue.valueConstructor?
  rw [symbolFor?_lifecycle _ _ (by decide), symbolFor?_lifecycle _ _ (by decide)]
  exact ⟨_, _, rfl⟩

lemma constructs_model : Contains (Glue.part symbolPrefix (i.model name config))
    (constructor name) := by
  have hself : "pub fn new() -> Self" ++ " \x7b" = "pub fn new() -> Self \x7b" := by decide
  obtain ⟨body, after, hscript⟩ :=
    constructorScript_model symbolPrefix i name config
  have hbegins : (constructor name).flatMap tokens <+:
      (Glue.constructorScript (i.model name config)
        ((i.model name config).abi symbolPrefix)).tokens := by
    refine ⟨body.tokens ++ (tokens "\x7d" ++ (tokens "\x7d" ++ after.tokens)), ?_⟩
    simp only [hscript, constructor, Glue.implementation, Glue.inlined, braced, Script.tokens,
      List.flatMap_cons, List.flatMap_nil, List.append_assoc, List.nil_append, hself]
  rw [Contains, Glue.part, Script.tokens_write, Glue.classScript, Script.tokens_all,
    List.flatMap_cons]
  exact hbegins.isInfix.trans (List.prefix_append _ _).isInfix

end Container

/-- The functions are exported in another order than they are called in. -/
lemma perm_uses (element : String) (m : MethodSymbols) :
    ((uses element m).map fun use => (⟨use.1, use.2.length⟩ : Call)).Perm
      (m.all.zipWith Call.mk [1, 2, 2, 2, 3, 2]) :=
  (((List.Perm.swap _ _ _).cons _).cons _).cons _

/-- The arguments keep their commas if the element does. -/
lemma keepsCommas_of_mem_uses (h : KeepsCommas element) {use : String × List String}
    (huse : use ∈ uses element m) :
    ∀ argument ∈ use.2, tokens argument ≠ [] ∧ KeepsCommas argument := by
  have hitem : tokens ("item as *const " ++ element ++ " as *const _") ≠ []
      ∧ KeepsCommas ("item as *const " ++ element ++ " as *const _") := by
    have htokens : tokens ("item as *const " ++ element ++ " as *const _")
        = [.word "item", .word "as", .mark '*', .word "const"]
          ++ (tokens element ++ [.word "as", .mark '*', .word "const", .word "_"]) := by
      have hbefore : tokens "item as *const "
          = [.word "item", .word "as", .mark '*', .word "const"] := by decide
      have hafter : tokens " as *const _"
          = [.word "as", .mark '*', .word "const", .word "_"] := by decide
      rw [tokens_around (by decide) (by decide), hbefore, hafter, List.append_assoc]
    refine ⟨by simp [htokens], fun rest => ?_⟩
    rw [htokens, List.append_assoc, List.append_assoc]
    exact h _
  have hself : tokens "self" ≠ [] ∧ KeepsCommas "self" := ⟨by decide, fun _ => rfl⟩
  have hfixed : ∀ argument ∈ ["&mut size", "items.as_ptr() as *const _", "items.len() as _",
      "other", "additional as _"], tokens argument ≠ [] ∧ KeepsCommas argument := by
    simp only [List.forall_mem_cons]
    exact ⟨⟨by decide, fun _ => rfl⟩, ⟨by decide, fun _ => rfl⟩, ⟨by decide, fun _ => rfl⟩,
      ⟨by decide, fun _ => rfl⟩, ⟨by decide, fun _ => rfl⟩, by simp⟩
  simp only [uses, List.mem_cons, List.not_mem_nil, or_false] at huse
  rcases huse with rfl | rfl | rfl | rfl | rfl | rfl <;>
    simp [hself, hitem, hfixed]

/-- What goes into the wrapper of a container fits, whatever its element is called natively. -/
lemma fitting_model {symbolPrefix : String} (i : Instantiation) (config : ContainerTemplate)
    (hname : IsName name) (hspelled : WellFormed symbolPrefix)
    (hunderscores : ∀ symbol ∈ names, 2 ≤ symbol.toList.count '_')
    (hexported : ∀ f ∈ (i.model name config).abi symbolPrefix, f.symbol ∈ names)
    (helement : ∀ symbol ∈ names, .word symbol ∉ tokens i.foreign) :
    Fitting names name i.foreign (methodSymbols symbolPrefix (i.model name config)) where
  underscores := hunderscores
  name := hname.1
  element := helement
  symbols := by
    intro symbol hsymbol
    rw [all_methodSymbols] at hsymbol
    obtain ⟨key, hkey, rfl⟩ := List.mem_map.mp hsymbol
    have hop : AbiOp.method key ∈ (i.model name config).ops :=
      List.mem_append_right _ (List.mem_map_of_mem hkey)
    obtain ⟨f, hf, hfop⟩ := (mem_ops_iff symbolPrefix).mp hop
    have hmem := hexported f hf
    rw [symbol_of_mem_abi hf, hfop] at hmem
    exact ⟨hmem, (isName_symbolOf (Instantiation.named_model hname) hspelled hop).1⟩

/-! ## The wrappers of a model -/

/-- How the wrapper of a container is related to what is exported for the container. -/
structure Wrapped (model : Model) (entry : String × Instantiation) (c : ClassModel) : Prop where
  mem : c ∈ model.classes
  name : c.name = entry.1
  origin : c.origin = .container entry.2.native entry.2.foreign
  /-- The symbols that the wrapper finds are those of the exported method functions. -/
  found : (methodSymbols model.settings.symbolPrefix c).all
    = (c.methodFunctions model.settings.symbolPrefix).map (·.symbol)
  missing : "" ∉ (methodSymbols model.settings.symbolPrefix c).all
  distinct : (methodSymbols model.settings.symbolPrefix c).all.Nodup
  /-- Of all that is exported for the model this is applied, and nothing else. -/
  applied : List.Forall₂ AppliedTo
    (uses entry.2.foreign (methodSymbols model.settings.symbolPrefix c))
    (applications model.symbols (part model.settings.symbolPrefix c))
  /-- Each method function is applied once, with one argument for each parameter. -/
  arguments : ((uses entry.2.foreign (methodSymbols model.settings.symbolPrefix c)).map
      fun use => (⟨use.1, use.2.length⟩ : Call)).Perm
    ((c.methodFunctions model.settings.symbolPrefix).map fun f => ⟨f.symbol, f.params.length⟩)
  /-- A reader who counts arguments by commas finds as many, unless the element has commas of its
  own. -/
  counted : KeepsCommas entry.2.foreign →
    ((applications model.symbols (part model.settings.symbolPrefix c)).map
      fun a => (⟨a.1, argumentCount a.2⟩ : Call)).Perm
    ((c.methodFunctions model.settings.symbolPrefix).map fun f => ⟨f.symbol, f.params.length⟩)
  /-- The wrapper makes a new container, and the glue has the constructor for it. -/
  converts : Contains (part model.settings.symbolPrefix c) (conversion c.name entry.2.foreign)
  constructs : Contains (Glue.part model.settings.symbolPrefix c) (constructor c.name)

lemma two_le_count_of_mem_symbols {model : Model} {symbol : String} (h : symbol ∈ model.symbols) :
    2 ≤ symbol.toList.count '_' := by
  obtain ⟨c, -, hsymbol⟩ := List.mem_flatMap.mp h
  obtain ⟨f, hf, rfl⟩ := List.mem_map.mp hsymbol
  rw [symbol_of_mem_abi hf]
  exact c.two_le_count_underscore_symbolOf _ f.op

/-- The wrapper of a container of a loaded manifest, if no symbol is a word of its element. -/
lemma wrapped_model {manifest : Manifest} (hloaded : manifest.Loaded)
    {entry : String × Instantiation} (hentry : entry ∈ manifest.freeContainers)
    (helement : ∀ symbol ∈ (Model.ofManifest manifest).symbols,
      .word symbol ∉ tokens entry.2.foreign) :
    Wrapped (Model.ofManifest manifest) entry (entry.2.model entry.1 manifest.container) := by
  have hmem : entry.2.model entry.1 manifest.container ∈ (Model.ofManifest manifest).classes :=
    mem_classes_ofManifest.mpr (Or.inr ⟨entry, hentry, rfl⟩)
  have hname : IsName entry.1 := (named_of_mem_classes hloaded hmem).name
  have hfitting := fitting_model entry.2 manifest.container hname hloaded.namesFit.symbolPrefix.1
    (fun _ hsymbol => two_le_count_of_mem_symbols hsymbol)
    (fun f hf => List.mem_flatMap.mpr ⟨_, hmem, List.mem_map_of_mem hf⟩) helement
  have happlied := (applying_container hfitting).forall₂_write indent
  have harguments := perm_uses entry.2.foreign
    (methodSymbols manifest.symbolPrefix (entry.2.model entry.1 manifest.container))
  rw [← calls_methodFunctions] at harguments
  exact
    { mem := hmem, name := rfl, origin := rfl
      found := all_eq_methodFunctions _ _ _ _
      missing := empty_not_mem_all _ _ _ _
      distinct := nodup_all _ _ _ _
      applied := happlied
      arguments := harguments
      counted := fun hkeeps => by
        rw [← counts_of_forall₂ happlied fun use huse => keepsCommas_of_mem_uses hkeeps huse]
          at harguments
        exact harguments
      converts := converts_model _ _ _ _
      constructs := constructs_model _ _ _ _ }

/-- **The wrappers fit the interface.**  The wrappers of a compiled manifest are a head and one part
for each container, and the glue is a head and one part for each class.  If no exported symbol is a
word of the spelling of an element, then the parts are those of the containers of the manifest, in
order, and each fits: its container has six method functions, the wrapper finds the symbol of each
and applies each exactly once, to one argument for each parameter of its prototype, and it applies
nothing else that is exported.  The constructor that it takes is in the glue of the container. -/
theorem wrapped_of_compile {manifest : Manifest} (hloaded : manifest.Loaded)
    {compiled : Compilation} (hcompiled : manifest.compile = .ok compiled) :
    ∃ model, compiled.model = some model
      ∧ render model = (head model.settings).write indent
        ++ String.join (model.containers.map (part model.settings.symbolPrefix))
      ∧ Glue.render model
        = (Glue.head model.settings (Glue.needsOrdering model)
            (Glue.needsUninit model)).write indent
          ++ String.join (model.classes.map (Glue.part model.settings.symbolPrefix))
      ∧ ((∀ entry ∈ manifest.containers, ∀ symbol ∈ model.symbols,
          .word symbol ∉ tokens entry.2.foreign) →
        List.Forall₂ (Wrapped model) manifest.containers model.containers) := by
  have hfree := Manifest.freeContainers_of_compile hcompiled
  refine ⟨Model.ofManifest manifest, Manifest.model_of_compile hcompiled, render_eq _,
    Glue.render_eq _, fun helements => ?_⟩
  rw [containers_ofManifest, Manifest.expansion, hfree, List.forall₂_map_right_iff]
  refine List.forall₂_same.mpr fun entry hentry => ?_
  refine wrapped_model hloaded ?_ (helements entry hentry)
  rwa [hfree]

/-- A method that is exported under the name of a function of the library, and two containers. -/
def borrowingManifest : Manifest where
  symbolPrefix := "extend"
  classes := [("from", { methods := [("slice", {})] })]
  containers := [
    ("UrlList", { native := "Url", foreign := "Url" }),
    ("PairList", { native := "std::pair<int, int>", foreign := "(i32, i32)" })]

theorem wrapped_borrowingManifest :
    ∃ compiled model, borrowingManifest.compile = .ok compiled ∧ compiled.model = some model
      ∧ "extend_from_slice" ∈ model.symbols
      ∧ List.Forall₂ (Wrapped model) borrowingManifest.containers model.containers := by
  have hloaded : borrowingManifest.Loaded := by decide
  have hcompiled : borrowingManifest.compile = .ok borrowingManifest.compiled := rfl
  obtain ⟨model, hmodel, -, -, hwrapped⟩ := wrapped_of_compile hloaded hcompiled
  cases hmodel
  exact ⟨_, _, hcompiled, rfl, by decide, hwrapped (by decide)⟩

end ClassBridge.Artifact.Wrapper
