import ClassBridge.Artifact.Header
import ClassBridge.Artifact.Source
import ClassBridge.Proofs.Interface.Prototypes
import ClassBridge.Proofs.Pipeline.Outcome
import ClassBridge.Proofs.Sheet.Rows

/-!
# What header and source list

Both native artifacts have a line that opens the exported functions.  Below it the header declares
functions, each on a line that ends in a semicolon, and the source defines them, each from a line at
the margin that ends in an opening brace.  `prototypes_agree` says that a reader who goes by nothing
else finds the prototypes of the model in both, in the same order.

In the source the bodies of methods stand between the definitions.  Every row of a body is indented
or blank, so no text that is pasted there can be taken for a definition.
-/

namespace ClassBridge.Artifact

open Text Identifier

/-- The line that opens the exported functions. -/
def linkageMark : String := "extern \"C\" \x7b"

/-- What a line declares: what stands before the semicolon at its end. -/
def declaration? (line : String) : Option String := withoutEnding? ";" line

/-- What a line defines: what stands before the opening brace at its end, if it is not indented. -/
def definition? (line : String) : Option String :=
  if line.toList.head? = some ' ' then none else withoutEnding? " \x7b" line

/-- What a header declares below its mark. -/
def declaredPrototypes (header : String) : List String :=
  (linesAfter linkageMark (readLines header)).filterMap declaration?

/-- What a source defines below its mark. -/
def definedPrototypes (source : String) : List String :=
  (linesAfter linkageMark (readLines source)).filterMap definition?

lemma feedFree_linkageMark : FeedFree linkageMark := by decide

lemma getLast?_linkageMark : linkageMark.toList.getLast? = some '\x7b' := by decide

lemma readRow_linkageMark : readRow linkageMark = linkageMark := readRow_eq_self (by decide)

/-! ## Rows that say nothing -/

/-- A row that ends neither in an opening brace nor in a carriage return. -/
structure IsQuiet (row : String) : Prop where
  feedFree : FeedFree row
  noBrace : row.toList.getLast? ≠ some '\x7b'
  noReturn : row.toList.getLast? ≠ some '\r'

lemma isQuiet_empty : IsQuiet "" := ⟨by decide, by decide, by decide⟩

lemma isQuiet_close : IsQuiet "\x7d" := ⟨by decide, by decide, by decide⟩

/-- A name in a comment. -/
lemma isQuiet_comment {name : String} (h : WellFormed name) : IsQuiet ("// " ++ name) := by
  have hslashes : FeedFree "// " := by decide
  have hlast : ("// " ++ name).toList.getLast? = name.toList.getLast? := by
    rw [String.toList_append, List.getLast?_append_of_ne_nil _ (toList_ne_nil h)]
  refine ⟨feedFree_append.mpr ⟨hslashes, feedFree_of_wellFormed h⟩, ?_, ?_⟩
  · rw [hlast]
    exact getLast?_ne h (by decide)
  · rw [hlast]
    exact getLast?_ne h (by decide)

namespace IsQuiet

variable {row : String}

lemma readRow_eq (h : IsQuiet row) : readRow row = row := readRow_eq_self h.noReturn

lemma ne_linkageMark (h : IsQuiet row) : readRow row ≠ linkageMark := by
  rw [h.readRow_eq]
  rintro rfl
  exact h.noBrace getLast?_linkageMark

/-- A quiet row defines nothing. -/
lemma shows_definition (h : IsQuiet row) : Shows linkageMark definition? [row] [] := by
  refine Shows.silent h.feedFree h.ne_linkageMark ?_
  have hnone : withoutEnding? " \x7b" row = none :=
    withoutEnding?_eq_none (c := '\x7b') (by decide) h.noBrace
  rw [h.readRow_eq, definition?, hnone]
  split <;> rfl

/-- A quiet row that does not end in a semicolon declares nothing. -/
lemma shows_declaration (h : IsQuiet row) (hlast : row.toList.getLast? ≠ some ';') :
    Shows linkageMark declaration? [row] [] := by
  refine Shows.silent h.feedFree h.ne_linkageMark ?_
  rw [h.readRow_eq]
  exact withoutEnding?_eq_none (c := ';') (by decide) hlast

end IsQuiet

/-- A row of a body defines nothing. -/
lemma shows_indented {row : String} (hfeed : FeedFree row) (h : Script.IsIndented indent row) :
    Shows linkageMark definition? [row] [] := by
  rcases h with rfl | ⟨rest, rfl⟩
  · exact isQuiet_empty.shows_definition
  · have hhead : (readRow (indent.unit ++ rest)).toList.head? = some ' ' := by
      have hspaces : (indent.unit ++ rest).toList = ' ' :: ' ' :: ' ' :: ' ' :: rest.toList := by
        rw [String.toList_append]
        rfl
      rw [readRow, String.toList_ofList, hspaces, dropReturn]
      split
      · rfl
      · rfl
    refine Shows.silent hfeed ?_ ?_
    · intro heq
      rw [heq] at hhead
      revert hhead
      decide
    · rw [definition?, if_pos hhead]

/-! ## Rows with a prototype -/

/-- A declaration. -/
lemma shows_declared {prototype : String} (h : IsPrototype prototype) :
    Shows linkageMark declaration? [prototype ++ ";"] [prototype] := by
  have hsemicolon : FeedFree ";" := by decide
  have hlast : (prototype ++ ";").toList.getLast? = some ';' := by
    rw [String.toList_append]
    exact List.getLast?_concat
  have hread : readRow (prototype ++ ";") = prototype ++ ";" :=
    readRow_eq_self (by rw [hlast]; decide)
  refine Shows.single (feedFree_append.mpr ⟨h.feedFree, hsemicolon⟩) ?_ ?_
  · rw [hread]
    intro heq
    rw [heq, getLast?_linkageMark] at hlast
    revert hlast
    decide
  · rw [hread]
    exact withoutEnding?_append prototype ";"

/-- The first line of a definition. -/
lemma shows_defined {prototype : String} (h : IsPrototype prototype) :
    Shows linkageMark definition? [prototype ++ " \x7b"] [prototype] := by
  have hbrace : FeedFree " \x7b" := by decide
  have hlast : (prototype ++ " \x7b").toList.getLast? = some '\x7b' := by
    rw [String.toList_append]
    exact List.getLast?_append_of_ne_nil _ (by decide)
  have hread : readRow (prototype ++ " \x7b") = prototype ++ " \x7b" :=
    readRow_eq_self (by rw [hlast]; decide)
  have hhead : (prototype ++ " \x7b").toList.head? ≠ some ' ' := (h.atMargin.append _).2
  refine Shows.single (feedFree_append.mpr ⟨h.feedFree, hbrace⟩) ?_ ?_
  · rw [hread]
    intro heq
    -- before its brace the mark ends in a quotation mark, and not in a parenthesis
    have hmark : prototype ++ " \x7b" = "extern \"C\"" ++ " \x7b" := heq
    have hprototype : prototype = "extern \"C\"" := by
      apply String.toList_injective
      have hlist := congrArg String.toList hmark
      rw [String.toList_append, String.toList_append] at hlist
      exact List.append_cancel_right hlist
    have hclosed := h.closed
    rw [hprototype] at hclosed
    revert hclosed
    decide
  · rw [hread, definition?, if_neg hhead]
    exact withoutEnding?_append prototype " \x7b"

/-! ## The header -/

namespace Header

lemma isStructured_standInScript (c : ClassModel) : (standInScript c).isStructured = true := by
  have hfields : (Script.each c.layout fun field =>
      Script.line (field.2 ++ " " ++ field.1 ++ ";")).isStructured = true :=
    Script.isStructured_each fun _ _ => rfl
  show (Script.isStructured _ && true) = true
  rw [Bool.and_true]
  exact hfields

lemma isStructured_head (model : Model) : (head model).isStructured = true := by
  refine Script.isStructured_all ?_
  simp only [List.forall_mem_cons]
  refine ⟨rfl, rfl, rfl, ?_, ?_, ?_, by simp⟩
  · cases model.settings.prelude <;> rfl
  · exact Script.isStructured_each fun c _ => isStructured_standInScript c
  · refine Script.isStructured_all ?_
    simp only [List.forall_mem_cons]
    exact ⟨rfl, Script.isStructured_each fun _ _ => rfl, rfl,
      Script.isStructured_each fun _ _ => rfl, Script.isStructured_each fun _ _ => rfl, rfl, rfl,
      by simp⟩

/-- The rows of the declarations of a class. -/
def classRows (symbolPrefix : String) (c : ClassModel) : List String :=
  ["// " ++ c.name] ++ ((c.abi symbolPrefix).map fun f => f.prototype ++ ";") ++ [""]

lemma isStructured_declarations (symbolPrefix : String) (c : ClassModel) :
    ∀ script ∈ [Script.comment c.name,
      .each (c.abi symbolPrefix) fun f => .line (f.prototype ++ ";"), .blank],
      script.isStructured = true := by
  simp only [List.forall_mem_cons]
  exact ⟨rfl, Script.isStructured_each fun _ _ => rfl, rfl, by simp⟩

lemma rows_classScript (symbolPrefix : String) (c : ClassModel) :
    (classScript symbolPrefix c).rows indent 0 = classRows symbolPrefix c := by
  rw [classScript, Script.rows_all (isStructured_declarations symbolPrefix c)]
  simp only [List.flatMap_cons, List.flatMap_nil, List.append_nil, Script.rows, Indent.pad,
    String.empty_append]
  rw [Script.rows_each fun _ _ => rfl]
  simp only [Script.rows, Indent.pad, String.empty_append, classRows, List.append_assoc,
    List.map_eq_flatMap]

lemma isStructured_parts (model : Model) :
    ∀ script ∈ [head model, .line linkageMark, .blank,
      .each model.classes (classScript model.settings.symbolPrefix), .line "\x7d"],
      script.isStructured = true := by
  simp only [List.forall_mem_cons]
  exact ⟨isStructured_head model, rfl, rfl, Script.isStructured_each fun c _ =>
    Script.isStructured_all (isStructured_declarations _ c), rfl, by simp⟩

lemma rows_script (model : Model) :
    (script model).rows indent 0
      = (head model).rows indent 0 ++ linkageMark ::
        ([""] ++ model.classes.flatMap (classRows model.settings.symbolPrefix) ++ ["\x7d"]) := by
  have hclasses : ∀ c ∈ model.classes,
      (classScript model.settings.symbolPrefix c).isStructured = true :=
    fun c _ => Script.isStructured_all (isStructured_declarations _ c)
  have hparts : script model = Script.all [head model, .line linkageMark, .blank,
      .each model.classes (classScript model.settings.symbolPrefix), .line "\x7d"] := rfl
  rw [hparts, Script.rows_all (isStructured_parts model)]
  simp only [List.flatMap_cons, List.flatMap_nil, List.append_nil, Script.rows, Indent.pad,
    String.empty_append]
  rw [Script.rows_each hclasses]
  simp only [rows_classScript, List.cons_append, List.nil_append]

/-- The declarations of a class. -/
lemma shows_classRows {c : ClassModel} (h : c.Plain) {symbolPrefix : String}
    (hsymbol : WellFormed symbolPrefix) :
    Shows linkageMark declaration? (classRows symbolPrefix c)
      ((c.abi symbolPrefix).map (·.prototype)) := by
  have hcomment : Shows linkageMark declaration? ["// " ++ c.name] [] := by
    refine (isQuiet_comment h.named.name.1).shows_declaration ?_
    rw [String.toList_append, List.getLast?_append_of_ne_nil _ (toList_ne_nil h.named.name.1)]
    exact getLast?_ne h.named.name.1 (by decide)
  have hfunctions : Shows linkageMark declaration?
      ((c.abi symbolPrefix).flatMap fun f => [f.prototype ++ ";"])
      ((c.abi symbolPrefix).flatMap fun f => [f.prototype]) :=
    Shows.flatMap fun f hf => shows_declared (c.isPrototype_of_mem_abi h hsymbol hf)
  have hblank := isQuiet_empty.shows_declaration (by decide)
  rw [← List.map_eq_flatMap, ← List.map_eq_flatMap] at hfunctions
  have hrows := (hcomment.append hfunctions).append hblank
  rw [List.nil_append, List.append_nil] at hrows
  exact hrows

lemma linkageMark_mem_readLines (model : Model) : linkageMark ∈ readLines (render model) := by
  rw [render, Script.write_eq, rows_script]
  exact mem_readLines_closeRows feedFree_linkageMark readRow_linkageMark (by simp)

/-- A header declares the prototypes of its model. -/
theorem declaredPrototypes_render {model : Model} (h : model.Plain) :
    declaredPrototypes (render model) = model.prototypes := by
  have hclasses : Shows linkageMark declaration?
      (model.classes.flatMap (classRows model.settings.symbolPrefix)) model.prototypes :=
    Shows.flatMap fun c hc => shows_classRows (h.classes c hc) h.symbolPrefix
  have hrows := ((isQuiet_empty.shows_declaration (by decide)).append hclasses).append
    (isQuiet_close.shows_declaration (by decide))
  rw [declaredPrototypes, render, Script.write_eq, rows_script]
  simpa using hrows.read_eq feedFree_linkageMark readRow_linkageMark _

end Header

/-! ## The source -/

namespace Source

lemma isStructured_body (c : ClassModel) (op : AbiOp) : (body c op).isStructured = true := by
  cases op with
  | method name =>
      rw [body]
      cases c.method? name <;> rfl
  | _ => rfl

/-- The texts of a body, pasted ones apart, have the name of the class in them and nothing else
that could vary. -/
lemma isFeedFree_body {c : ClassModel} (h : c.Named) (op : AbiOp) : (body c op).IsFeedFree := by
  have hname := feedFree_of_wellFormed h.name.1
  cases op with
  | init => exact feedFree_append.mpr ⟨feedFree_append.mpr ⟨by decide, hname⟩, by decide⟩
  | new => exact feedFree_append.mpr ⟨feedFree_append.mpr ⟨by decide, hname⟩, by decide⟩
  | destroy => exact feedFree_append.mpr ⟨feedFree_append.mpr ⟨by decide, hname⟩, by decide⟩
  | clone => exact feedFree_append.mpr ⟨feedFree_append.mpr ⟨by decide, hname⟩, by decide⟩
  | move => exact feedFree_append.mpr ⟨feedFree_append.mpr ⟨by decide, hname⟩, by decide⟩
  | assign =>
      show FeedFree _
      decide
  | equals =>
      show FeedFree _
      decide
  | cmp =>
      show (FeedFree _ ∧ FeedFree _ ∧ FeedFree _) ∧ FeedFree _
      decide
  | method name =>
      rw [body]
      cases c.method? name <;> trivial

/-- The rows of a definition. -/
def functionRows (c : ClassModel) (f : AbiFunction) : List String :=
  [f.prototype ++ " \x7b"] ++ (body c f.op).rows indent 1 ++ ["\x7d"] ++ [""]

lemma isStructured_functionScript (c : ClassModel) (f : AbiFunction) :
    (functionScript c f).isStructured = true := by
  show ((body c f.op).isStructured && true) = true
  rw [isStructured_body]
  rfl

lemma rows_functionScript (c : ClassModel) (f : AbiFunction) :
    (functionScript c f).rows indent 0 = functionRows c f := by
  have hdepth := Script.depthAfter_of_isStructured (isStructured_body c f.op) 1
  simp [functionScript, braced, Script.rows, functionRows, Indent.pad, hdepth]

/-- A definition shows its prototype, whatever is pasted into its body. -/
lemma shows_functionRows {c : ClassModel} (h : c.Plain) {f : AbiFunction}
    (hf : IsPrototype f.prototype) :
    Shows linkageMark definition? (functionRows c f) [f.prototype] := by
  have hbody : Shows linkageMark definition? ((body c f.op).rows indent 1) [] :=
    Shows.silence fun row hrow => shows_indented
      (Script.feedFree_of_mem_rows (isFeedFree_body h.named f.op) hrow)
      (Script.indented_of_mem_rows (isStructured_body c f.op) hrow)
  exact (((shows_defined hf).append hbody).append isQuiet_close.shows_definition).append
    isQuiet_empty.shows_definition

/-- The rows of the checks of a class. -/
def layoutRows (c : ClassModel) : List String :=
  if c.hasLayout then
    [measureCheck c "alignof" "Alignment", measureCheck c "sizeof" "Size"]
  else []

/-- The rows of the definitions of a class. -/
def classRows (symbolPrefix : String) (c : ClassModel) : List String :=
  ["// " ++ c.name] ++ layoutRows c ++ [""]
    ++ (c.abi symbolPrefix).flatMap (functionRows c)

lemma isStructured_definitions (symbolPrefix : String) (c : ClassModel) :
    ∀ script ∈ [Script.comment c.name, .whenever c.hasLayout (layoutChecks c), .blank,
      .each (c.abi symbolPrefix) (functionScript c)], script.isStructured = true := by
  simp only [List.forall_mem_cons]
  exact ⟨rfl, rfl, rfl, Script.isStructured_each fun f _ => isStructured_functionScript c f,
    by simp⟩

lemma rows_classScript (symbolPrefix : String) (c : ClassModel) :
    (classScript symbolPrefix c).rows indent 0 = classRows symbolPrefix c := by
  rw [classScript, Script.rows_all (isStructured_definitions symbolPrefix c)]
  simp only [List.flatMap_cons, List.flatMap_nil, List.append_nil, Script.rows, layoutChecks,
    Script.depthAfter, Indent.pad, String.empty_append]
  rw [Script.rows_each fun f _ => isStructured_functionScript c f]
  simp only [rows_functionScript, classRows, layoutRows, List.append_assoc, List.cons_append,
    List.nil_append]

lemma rows_head (settings : Settings) :
    ∃ before, (head settings).rows indent 0 = before ++ [linkageMark, ""] := by
  refine ⟨["// GENERATED -- DO NOT EDIT!!", "#include \"" ++ settings.header ++ "\"", "",
    "#include <new>", "#include <utility>", ""], ?_⟩
  simp [head, banner, Script.all, Script.rows, Script.depthAfter, Indent.pad, linkageMark]

lemma rows_script (model : Model) :
    ∃ before, (script model).rows indent 0
      = before ++ linkageMark ::
        ([""] ++ model.classes.flatMap (classRows model.settings.symbolPrefix) ++ ["\x7d"]) := by
  have hclasses : ∀ c ∈ model.classes,
      (classScript model.settings.symbolPrefix c).isStructured = true :=
    fun c _ => Script.isStructured_all (isStructured_definitions _ c)
  have hparts : ∀ part ∈ [head model.settings,
      .each model.classes (classScript model.settings.symbolPrefix), .line "\x7d"],
      part.isStructured = true := by
    simp only [List.forall_mem_cons]
    exact ⟨rfl, Script.isStructured_each hclasses, rfl, by simp⟩
  obtain ⟨before, hhead⟩ := rows_head model.settings
  refine ⟨before, ?_⟩
  rw [script, Script.rows_all hparts]
  simp only [List.flatMap_cons, List.flatMap_nil, List.append_nil, hhead, Script.rows, Indent.pad,
    String.empty_append]
  rw [Script.rows_each hclasses]
  simp only [rows_classScript, List.append_assoc, List.cons_append, List.nil_append]

/-- The check of a measure ends in a semicolon. -/
lemma isQuiet_measureCheck {c : ClassModel} (h : c.Plain) {operator label : String}
    (hoperator : FeedFree operator) (hlabel : FeedFree label) :
    IsQuiet (measureCheck c operator label) := by
  have hname := feedFree_of_wellFormed h.named.name.1
  have hend : (" incompatible\");" : String).toList.getLast? = some ';' := by decide
  have hne : (" incompatible\");" : String).toList ≠ [] := by decide
  unfold measureCheck standIn
  constructor
  · simp only [feedFree_append, hname, hoperator, hlabel, and_true]
    decide
  · rw [String.toList_append, List.getLast?_append_of_ne_nil _ hne, hend]
    decide
  · rw [String.toList_append, List.getLast?_append_of_ne_nil _ hne, hend]
    decide

/-- The definitions of a class. -/
lemma shows_classRows {c : ClassModel} (h : c.Plain) {symbolPrefix : String}
    (hsymbol : WellFormed symbolPrefix) :
    Shows linkageMark definition? (classRows symbolPrefix c)
      ((c.abi symbolPrefix).map (·.prototype)) := by
  have hcomment := (isQuiet_comment h.named.name.1).shows_definition
  have hlayout : Shows linkageMark definition? (layoutRows c) [] := by
    unfold layoutRows
    split
    · exact (isQuiet_measureCheck h (by decide) (by decide)).shows_definition.append
        (isQuiet_measureCheck h (by decide) (by decide)).shows_definition
    · exact Shows.nil
  have hfunctions : Shows linkageMark definition?
      ((c.abi symbolPrefix).flatMap (functionRows c))
      ((c.abi symbolPrefix).flatMap fun f => [f.prototype]) :=
    Shows.flatMap fun f hf => shows_functionRows h (c.isPrototype_of_mem_abi h hsymbol hf)
  rw [← List.map_eq_flatMap] at hfunctions
  exact ((hcomment.append hlayout).append isQuiet_empty.shows_definition).append hfunctions

lemma linkageMark_mem_readLines (model : Model) : linkageMark ∈ readLines (render model) := by
  obtain ⟨before, hscript⟩ := rows_script model
  rw [render, Script.write_eq, hscript]
  exact mem_readLines_closeRows feedFree_linkageMark readRow_linkageMark (by simp)

/-- A source defines the prototypes of its model. -/
theorem definedPrototypes_render {model : Model} (h : model.Plain) :
    definedPrototypes (render model) = model.prototypes := by
  have hclasses : Shows linkageMark definition?
      (model.classes.flatMap (classRows model.settings.symbolPrefix)) model.prototypes :=
    Shows.flatMap fun c hc => shows_classRows (h.classes c hc) h.symbolPrefix
  have hrows := (isQuiet_empty.shows_definition.append hclasses).append
    isQuiet_close.shows_definition
  obtain ⟨before, hscript⟩ := rows_script model
  rw [definedPrototypes, render, Script.write_eq, hscript]
  simpa using hrows.read_eq feedFree_linkageMark readRow_linkageMark before

end Source

/-! ## The two listings -/

/-- **Header and source agree.**  Both artifacts of a compiled manifest have the mark, and below it
the one declares and the other defines the prototypes of the model, in the same order.  They would
with any other bodies in the place of those that the manifest has. -/
theorem prototypes_agree {manifest : Manifest} (hloaded : manifest.Loaded)
    (hplain : manifest.PlainSpellings) {c : Compilation} (hcompiled : manifest.compile = .ok c) :
    ∃ model, c.model = some model
      ∧ linkageMark ∈ readLines (Header.render model)
      ∧ linkageMark ∈ readLines (Source.render model)
      ∧ declaredPrototypes (Header.render model) = model.prototypes
      ∧ definedPrototypes (Source.render model) = model.prototypes
      ∧ ∀ bodies : String → String → String,
        declaredPrototypes (Header.render (model.withBodies bodies)) = model.prototypes
        ∧ definedPrototypes (Source.render (model.withBodies bodies)) = model.prototypes := by
  have hmodel := plain_ofManifest hloaded hplain
  refine ⟨Model.ofManifest manifest, Manifest.model_of_compile hcompiled,
    Header.linkageMark_mem_readLines _, Source.linkageMark_mem_readLines _,
    Header.declaredPrototypes_render hmodel, Source.definedPrototypes_render hmodel, ?_⟩
  intro bodies
  have hbodies := Model.plain_withBodies hmodel bodies
  have hsame := Model.prototypes_withBodies (Model.ofManifest manifest) bodies
  exact ⟨(Header.declaredPrototypes_render hbodies).trans hsame,
    (Source.definedPrototypes_render hbodies).trans hsame⟩

/-- A class with a method whose body looks like a definition. -/
def disguisedManifest : Manifest where
  classes := [("Url", { methods := [
    ("swap", { params := [("other", "Url*")], body := "void ffi_Url_copy(Url* self) \x7b\n\x7d" }),
    ("size", { returnType := some "int", body := "return 0;", isConst := true })] })]

theorem definedPrototypes_disguisedManifest :
    ∃ c model, disguisedManifest.compile = .ok c ∧ c.model = some model
      ∧ definedPrototypes (Source.render model)
        = ["void ffi_Url_destroy(Url* self)", "void ffi_Url_swap(Url* self, Url* other)",
          "int ffi_Url_size(Url const* self)"] := by
  have hloaded : disguisedManifest.Loaded :=
    { classKeys := by decide
      containerKeys := by decide
      layoutKeys := by decide
      methodKeys := by decide
      paramKeys := by decide
      namesChecked := ⟨"", rfl⟩ }
  have hplain : disguisedManifest.PlainSpellings :=
    { results := by decide
      params := by decide
      elements := by decide }
  have hcompiled : disguisedManifest.compile = .ok disguisedManifest.compiled := rfl
  obtain ⟨model, hmodel, -, -, -, hdefined, -⟩ := prototypes_agree hloaded hplain hcompiled
  refine ⟨_, model, hcompiled, hmodel, ?_⟩
  rw [hdefined]
  cases hmodel
  rfl

end ClassBridge.Artifact
