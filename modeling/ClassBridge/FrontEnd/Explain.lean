import ClassBridge.Abi
import ClassBridge.Pipeline.Basic
import ClassBridge.Report

/-!
# Explaining a manifest

An explanation says what the pipeline does, which C functions every class exports, and which files
a generation writes.
-/

namespace ClassBridge

/-- A class with the prototypes of its functions. -/
structure ClassSummary where
  name : String
  nativeName : String
  functions : List String
  deriving DecidableEq, Repr

/-- What the pipeline does with a schema. -/
structure ExplainReport where
  config : String
  symbolPrefix : String
  /-- The phases, each with its description. -/
  phases : List (String × String)
  /-- The lints, each with its description. -/
  lints : List (String × String)
  classes : List ClassSummary
  files : List String
  deriving DecidableEq, Repr

namespace ClassSummary

/-- The lines about a class. -/
def lines (c : ClassSummary) : Report :=
  .listItem (if c.name = c.nativeName then c.name else c.name ++ " (" ++ c.nativeName ++ ")")
    :: c.functions.map fun f => .preformatted ("      " ++ f)

end ClassSummary

namespace ExplainReport

/-- The lines about the phases. -/
def phaseLines (phases : List (String × String)) : Report :=
  phases.zipIdx.map fun (phase, i) => .numberedItem (i + 1) (phase.1 ++ " - " ++ phase.2)

/-- The lines of the report. -/
def lines (r : ExplainReport) : Report :=
  [.title "cabind Pipeline Explanation", .newline,
    .keyValue "Input" r.config, .keyValue "Prefix" r.symbolPrefix, .newline,
    .section "Pipeline Phases"]
    ++ phaseLines r.phases
    ++ [.newline, .section "Validation Lints"]
    ++ r.lints.map (fun lint => .listItem (lint.1 ++ ": " ++ lint.2))
    ++ [.newline, .section ("Classes (" ++ toString r.classes.length ++ ")")]
    ++ r.classes.flatMap ClassSummary.lines
    ++ [.newline, .section "Files to Generate"]
    ++ r.files.map .listItem

end ExplainReport

/-- A class with the prototypes of its functions. -/
def ClassModel.summary (symbolPrefix : String) (c : ClassModel) : ClassSummary where
  name := c.name
  nativeName := c.nativeName
  functions := (c.abi symbolPrefix).map AbiFunction.prototype

namespace Manifest

/-- The files that a generation writes; the raw bindings only if they are wanted. -/
def fileList (manifest : Manifest) : List String :=
  let output := manifest.output
  [output.header, output.source, output.glue, output.containers]
    ++ if manifest.raw.enabled then [output.raw ++ " (via " ++ manifest.raw.tool ++ ")"] else []

/-- The explanation of a model. -/
def explanation (manifest : Manifest) (config : String) (model : Model) : ExplainReport :=
  let pipeline : Pipeline Unit := {}
  { config
    symbolPrefix := model.settings.symbolPrefix
    phases := pipeline.phases.map fun phase => (phase.name, phase.description)
    lints := pipeline.lints.map fun lint => (lint.name, lint.description)
    classes := model.classes.map (ClassModel.summary model.settings.symbolPrefix)
    files := manifest.fileList }

/-- Explains a manifest that was read from a file. -/
def explain (manifest : Manifest) (config : String) : Except Failure ExplainReport :=
  match manifest.compile with
  | .error failure => .error (.during .running failure)
  | .ok c =>
    match c.model with
    | none => .error .noModel
    | some model => .ok (manifest.explanation config model)

end Manifest

end ClassBridge
