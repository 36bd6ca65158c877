import ClassBridge.Proofs.Artifact.Gluing
import ClassBridge.Proofs.Artifact.Listings
import Mathlib.Data.List.Flatten

/-!
# The types that the translator sees

The translator learns of a class from a line of its own, and of the fields of a class from a struct
that stands in for it.  The name of the struct is made from that of the class, and it may be the
name of another class: then that class is, for the translator, the struct.

**Reading.**  `declaredType?` reads the name of a type off the line that declares it.  The header
has a mark above the lines of the classes and one below them, and the structs stand above both
(`declares_render`).

**Distinct names.**  Names of classes are distinct, and so are names of structs, so only a class
that is called like the struct of another one can be taken for it (`nodup_translatorTypes_iff`).
Nothing in a schema rules that out.
-/

namespace ClassBridge

open scoped List

/-! ## Names of a schema -/

namespace Manifest

variable (manifest : Manifest)

/-- The names of all that a manifest makes a class of. -/
def typeNames : List String := manifest.classes.map Prod.fst ++ manifest.containers.map Prod.fst

/-- The names of the classes whose fields are known: declared classes with a layout, and all
containers. -/
def laidOutNames : List String :=
  (manifest.classes.filter fun entry => !entry.2.layout.isEmpty).map Prod.fst
    ++ manifest.containers.map Prod.fst

lemma laidOutNames_eq (hfree : manifest.freeContainers = manifest.containers) :
    ((Model.ofManifest manifest).classes.filter ClassModel.hasLayout).map (·.name)
      = manifest.laidOutNames := by
  have hcontainers : manifest.expansion.filter ClassModel.hasLayout = manifest.expansion := by
    refine List.filter_eq_self.mpr fun c hc => ?_
    obtain ⟨entry, -, rfl⟩ := List.mem_map.mp hc
    rfl
  rw [Model.ofManifest, List.filter_append, hcontainers, List.map_append, Model.declared,
    List.filter_map, List.map_map, expansion, List.map_map, hfree]
  rfl

end Manifest

namespace Artifact.Header

open Code Text Identifier

/-- The type that a line declares: the last name before the mark at its end. -/
def declaredType? (line : String) : Option String :=
  match tokens line with
  | [.word keyword, .word name, .mark ending] =>
    if keyword = "struct" ∧ ending = '\x7b' ∨ keyword = "class" ∧ ending = ';' then some name
    else none
  | [.word keyword, .word _, .word name, .mark ending] =>
    if keyword = "typedef" ∧ ending = ';' then some name else none
  | _ => none

/-- The line that opens what only the translator sees. -/
def translatorMark : String := "#ifdef BINDGEN"

/-- The line that opens what only the native compiler sees. -/
def nativeMark : String := "#else"

/-- A header that declares types to the translator, each on a line of its own, and above them
structs. -/
def Declares (header : String) (structs types : List String) : Prop :=
  ∃ above face below,
    readLines header = above ++ translatorMark :: (face ++ nativeMark :: below)
      ∧ structs <+ above.filterMap declaredType? ∧ face.map declaredType? = types.map some

/-- The structs that stand in for the classes of a model. -/
def standIns (model : Model) : List String :=
  (model.classes.filter ClassModel.hasLayout).map standIn

/-- The types that a translator hears of: structs first, then classes. -/
def translatorTypes (model : Model) : List String := standIns model ++ model.classes.map (·.name)

/-! ## Lines -/

/-- The line that opens the struct of a class. -/
def standInLine (c : ClassModel) : String := "struct " ++ standIn c ++ " \x7b"

variable {c : ClassModel}

lemma wellFormed_standIn (h : WellFormed c.name) : WellFormed (standIn c) := by
  have hunderscore : WellFormed "_" := by decide
  exact hunderscore.append fun d hd => isFollower_of_mem h hd

lemma declaredType?_standInLine (h : WellFormed c.name) :
    declaredType? (standInLine c) = some (standIn c) := by
  have hstruct : Closed "struct " := by decide
  have hbrace : Opens " \x7b" := by decide
  have htokens : tokens (standInLine c) = [.word "struct", .word (standIn c), .mark '\x7b'] := by
    rw [standInLine, String.append_assoc, tokens_append_of_closed hstruct,
      tokens_append_of_open _ hbrace, tokens_word (wellFormed_standIn h)]
    rfl
  simp [declaredType?, htokens]

/-- The line of a class declares its name, with fields or without. -/
lemma declaredType?_translatorLine (h : WellFormed c.name) :
    declaredType? (translatorLine c) = some c.name := by
  have hsemicolon : Opens ";" := by decide
  unfold translatorLine
  split
  · have htypedef : Closed "typedef " := by decide
    have hblank : Closed " " := by decide
    have htokens : tokens ("typedef " ++ standIn c ++ " " ++ c.name ++ ";")
        = [.word "typedef", .word (standIn c), .word c.name, .mark ';'] := by
      have hopens : Opens (" " ++ (c.name ++ ";")) := by
        simp [Opens]
        decide
      rw [String.append_assoc, String.append_assoc, String.append_assoc,
        tokens_append_of_closed htypedef, tokens_append_of_open _ hopens,
        tokens_word (wellFormed_standIn h), tokens_append_of_closed hblank,
        tokens_append_of_open _ hsemicolon, tokens_word h]
      rfl
    simp [declaredType?, htokens]
  · have hclass : Closed "class " := by decide
    have htokens : tokens ("class " ++ c.name ++ ";")
        = [.word "class", .word c.name, .mark ';'] := by
      rw [String.append_assoc, tokens_append_of_closed hclass, tokens_append_of_open _ hsemicolon,
        tokens_word h]
      rfl
    simp [declaredType?, htokens]

/-! ## The text -/

lemma standInLine_reads (h : WellFormed c.name) :
    FeedFree (standInLine c) ∧ readRow (standInLine c) = standInLine c := by
  have hname := feedFree_of_wellFormed (wellFormed_standIn h)
  have hlast : (standInLine c).toList.getLast? = some '\x7b' := by
    rw [standInLine, String.toList_append]
    exact List.getLast?_append_of_ne_nil _ (by decide)
  refine ⟨?_, readRow_eq_self (by rw [hlast]; decide)⟩
  simp only [standInLine, feedFree_append, hname, and_true]
  decide

lemma translatorLine_reads (h : WellFormed c.name) :
    FeedFree (translatorLine c) ∧ readRow (translatorLine c) = translatorLine c := by
  have hname := feedFree_of_wellFormed h
  have hstandIn := feedFree_of_wellFormed (wellFormed_standIn h)
  unfold translatorLine
  split
  · have hlast : ("typedef " ++ standIn c ++ " " ++ c.name ++ ";").toList.getLast? = some ';' := by
      rw [String.toList_append]
      exact List.getLast?_concat
    refine ⟨?_, readRow_eq_self (by rw [hlast]; decide)⟩
    simp only [feedFree_append, hname, hstandIn, and_true]
    decide
  · have hlast : ("class " ++ c.name ++ ";").toList.getLast? = some ';' := by
      rw [String.toList_append]
      exact List.getLast?_concat
    refine ⟨?_, readRow_eq_self (by rw [hlast]; decide)⟩
    simp only [feedFree_append, hname, and_true]
    decide

/-- The struct of a class begins with its line. -/
lemma rows_standInScript (c : ClassModel) :
    [standInLine c] <+ (standInScript c).rows indent 0 := by
  simp [standInScript, Script.rows, Indent.pad, standInLine]

/-- The face for the translator comes first. -/
lemma rows_faces (model : Model) :
    ∃ after, (faces model).rows indent 0
      = translatorMark :: (model.classes.map translatorLine ++ nativeMark :: after) := by
  have hfaces : (faces model).isStructured = true :=
    Script.isStructured_of_mem_all (isStructured_head model) _ (by simp)
  have hlines : (Script.each model.classes fun c => .line (translatorLine c)).rows indent 0
      = model.classes.map translatorLine := by
    rw [Script.rows_each fun _ _ => rfl, List.map_eq_flatMap]
    simp only [Script.rows, Indent.pad, String.empty_append]
  rw [faces, Script.rows_all (Script.isStructured_of_mem_all hfaces), List.flatMap_cons,
    List.flatMap_cons, List.flatMap_cons, hlines]
  exact ⟨_, rfl⟩

/-- The structs stand above the two faces. -/
lemma rows_head (model : Model) :
    ∃ before after, (head model).rows indent 0
      = (before ++ (model.classes.filter ClassModel.hasLayout).flatMap
          fun c => (standInScript c).rows indent 0)
        ++ translatorMark :: (model.classes.map translatorLine ++ nativeMark :: after) := by
  obtain ⟨after, hfaces⟩ := rows_faces model
  obtain ⟨scripts, hscripts⟩ : ∃ scripts, head model = Script.all (scripts
      ++ [.each (model.classes.filter ClassModel.hasLayout) standInScript, faces model]) :=
    ⟨[_, _, _, _], rfl⟩
  have hhead := isStructured_head model
  rw [hscripts] at hhead
  have hparts := Script.isStructured_of_mem_all hhead
  have hstandIns : (Script.each (model.classes.filter ClassModel.hasLayout) standInScript).rows
      indent 0 = (model.classes.filter ClassModel.hasLayout).flatMap
        fun c => (standInScript c).rows indent 0 :=
    Script.rows_each (fun c _ => isStructured_standInScript c) _ _
  refine ⟨scripts.flatMap fun script => script.rows indent 0, after, ?_⟩
  rw [hscripts, Script.rows_all hparts, List.flatMap_append]
  simp only [List.flatMap_cons, List.flatMap_nil, hstandIns, hfaces, List.append_nil,
    List.append_assoc]

/-- What is read off the rows of a struct begins with its name. -/
lemma standIn_sublist_rows (h : WellFormed c.name) :
    [standIn c]
      <+ (((standInScript c).rows indent 0).flatMap rowLines).filterMap declaredType? := by
  have hreads := standInLine_reads h
  have hline : ([standInLine c].flatMap rowLines).filterMap declaredType? = [standIn c] := by
    rw [List.flatMap_singleton, rowLines_eq hreads.1, hreads.2, List.filterMap_cons,
      declaredType?_standInLine h]
    rfl
  rw [← hline]
  exact ((rows_standInScript c).flatMap rowLines).filterMap declaredType?

/-- The header declares the structs and the names of the classes. -/
theorem declares_render {model : Model} (hnames : ∀ c ∈ model.classes, WellFormed c.name) :
    Declares (render model) (standIns model) (model.classes.map (·.name)) := by
  obtain ⟨before, after, hhead⟩ := rows_head model
  have hface : (model.classes.map translatorLine).flatMap rowLines
      = model.classes.map translatorLine := by
    rw [List.flatMap_map, List.map_eq_flatMap]
    refine List.flatMap_congr fun c hc => ?_
    have hreads := translatorLine_reads (hnames c hc)
    rw [rowLines_eq hreads.1, hreads.2]
  have htranslator : rowLines translatorMark = [translatorMark] := by decide
  have hnative : rowLines nativeMark = [nativeMark] := by decide
  refine ⟨(before ++ (model.classes.filter ClassModel.hasLayout).flatMap
      fun c => (standInScript c).rows indent 0).flatMap rowLines, model.classes.map translatorLine,
    (after ++ linkageMark :: ([""] ++ model.classes.flatMap (classRows model.settings.symbolPrefix)
      ++ ["\x7d"])).flatMap rowLines, ?_, ?_, ?_⟩
  · rw [render, Script.write_eq, rows_script, readLines_closeRows, hhead]
    simp only [List.flatMap_append, List.flatMap_cons, htranslator, hnative, hface,
      List.append_assoc, List.cons_append, List.nil_append]
  · have hstructs : standIns model
        <+ (((model.classes.filter ClassModel.hasLayout).flatMap
          fun c => (standInScript c).rows indent 0).flatMap rowLines).filterMap declaredType? := by
      rw [standIns, List.map_eq_flatMap, List.flatMap_assoc, List.filterMap_flatMap]
      exact List.Sublist.flatMap_right _ fun c hc =>
        standIn_sublist_rows (hnames c (List.mem_of_mem_filter hc))
    rw [List.flatMap_append, List.filterMap_append]
    exact hstructs.trans (List.sublist_append_right _ _)
  · rw [List.map_map, List.map_map]
    exact List.map_congr_left fun c hc => declaredType?_translatorLine (hnames c hc)

/-! ## Distinct names -/

/-- Only the struct of one class and the name of another can be the same. -/
lemma nodup_translatorTypes_iff {model : Model} (hnames : (model.classes.map (·.name)).Nodup) :
    (translatorTypes model).Nodup
      ↔ ∀ c ∈ model.classes, c.hasLayout = true → standIn c ∉ model.classes.map (·.name) := by
  have hstandIns : (standIns model).Nodup := by
    have hlaidOut : ((model.classes.filter ClassModel.hasLayout).map (·.name)).Nodup :=
      hnames.sublist (List.filter_sublist.map _)
    have hunderscore : Function.Injective fun name : String => "_" ++ name := fun first second h =>
      String.append_right_inj "_" |>.mp h
    have hmapped := hlaidOut.map hunderscore
    rwa [List.map_map] at hmapped
  rw [translatorTypes, List.nodup_append]
  constructor
  · rintro ⟨-, -, hdistinct⟩ c hc hlayout hmem
    have hstandIn : standIn c ∈ standIns model :=
      List.mem_map_of_mem (List.mem_filter.mpr ⟨hc, hlayout⟩)
    exact hdistinct _ hstandIn _ hmem rfl
  · intro hapart
    refine ⟨hstandIns, hnames, ?_⟩
    rintro struct hstruct name hname rfl
    obtain ⟨c, hc, rfl⟩ := List.mem_map.mp hstruct
    rw [List.mem_filter] at hc
    exact hapart c hc.1 hc.2 hname

/-- **Types of the translator.**  The header of a compiled manifest declares to the translator a
struct for each class whose fields are known, and below them the name of each class.  The types are
distinct exactly if no class is called like the struct of another: if no name with known fields is,
behind an underscore, a name too. -/
theorem translatorTypes_of_compile {manifest : Manifest} (hloaded : manifest.Loaded)
    {c : Compilation} (hcompiled : manifest.compile = .ok c) :
    ∃ model, c.model = some model
      ∧ Declares (render model) (standIns model) (model.classes.map (·.name))
      ∧ ((translatorTypes model).Nodup
        ↔ ∀ name ∈ manifest.laidOutNames, "_" ++ name ∉ manifest.typeNames) := by
  have hfree := Manifest.freeContainers_of_compile hcompiled
  have hnames : ∀ k ∈ (Model.ofManifest manifest).classes, WellFormed k.name :=
    fun k hk => (named_of_mem_classes hloaded hk).name.1
  refine ⟨Model.ofManifest manifest, Manifest.model_of_compile hcompiled, declares_render hnames,
    ?_⟩
  rw [nodup_translatorTypes_iff (nodup_names_ofManifest hloaded), names_ofManifest, hfree,
    ← manifest.laidOutNames_eq hfree, List.forall_mem_map]
  simp only [List.mem_filter, and_imp]
  rfl

/-- A class with fields, a container, and names that begin with underscores. -/
def underscoredManifest : Manifest where
  classes := [("Point", { layout := [("x", "int")] }), ("__Point", {})]
  containers := [("_List", { native := "int", foreign := "i32" })]

theorem translatorTypes_underscoredManifest :
    ∃ c model, underscoredManifest.compile = .ok c ∧ c.model = some model
      ∧ translatorTypes model = ["_Point", "__List", "Point", "__Point", "_List"]
      ∧ (translatorTypes model).Nodup := by
  have hloaded : underscoredManifest.Loaded := by decide
  have hcompiled : underscoredManifest.compile = .ok underscoredManifest.compiled := rfl
  obtain ⟨model, hmodel, -, hdistinct⟩ := translatorTypes_of_compile hloaded hcompiled
  refine ⟨_, model, hcompiled, hmodel, ?_, hdistinct.mpr (by decide)⟩
  cases hmodel
  rfl

/-- A class that is called like the struct of another. -/
def mistakenManifest : Manifest where
  classes := [("Point", { layout := [("x", "int")] }), ("_Point", {})]

/-- Nothing is found wrong with it, and a struct and a class have one name. -/
theorem not_nodup_mistakenManifest :
    mistakenManifest.Loaded
      ∧ ∃ c model, mistakenManifest.compile = .ok c ∧ c.model = some model
        ∧ Declares (render model) ["_Point"] ["Point", "_Point"]
        ∧ ¬ (translatorTypes model).Nodup := by
  have hnames : ∀ k ∈ (Model.ofManifest mistakenManifest).classes, WellFormed k.name := by decide
  exact ⟨by decide, _, _, rfl, rfl, declares_render hnames, by decide⟩

end Artifact.Header

end ClassBridge
