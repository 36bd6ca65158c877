import ClassBridge.CommandLine.Request
import ClassBridge.Manifest.Read
import ClassBridge.FrontEnd.Explain

/-!
# Running a command line

A run takes files to files and leaves an exit status and two texts behind.  A command that fails
prints nothing on the first stream; a check that finds errors is no failure, but its exit status
is that of one.
-/

namespace ClassBridge.CommandLine

/-- What a run leaves behind. -/
structure Outcome where
  exit : Nat
  stdout : String := ""
  stderr : String := ""
  deriving DecidableEq, Repr

namespace Outcome

/-- A run that printed a report. -/
def report (lines : Report) (exit : Nat) : Outcome :=
  { exit, stdout := lines.stdout, stderr := lines.stderr }

/-- A run that failed; the causes of the failure follow it, each on a line of its own. -/
def failed (texts : List String) : Outcome :=
  { exit := 1
    stderr := "error: " ++ String.intercalate "\n  caused by: " texts ++ "\n" }

/-- A run that failed without a manifest. -/
def unread (error : ReadError) : Outcome :=
  failed (error.message ::
    match error with
    | .unreadable _ fault => [fault.message]
    | .schema _ => [])

/-- A run that a mistake on the command line ended. -/
def mistaken (error : UsageError) : Outcome :=
  { exit := 2, stderr := "error: " ++ error.message ++ "\n" }

/-- The text of a failure with its causes. -/
def ofFailure (failure : Failure) : Outcome := failed failure.chain

end Outcome

/-- The version of the program. -/
def versionText : String := "cabind 0.1.0\n"

/-- How the program is used. -/
def helpText : String := String.join ([
  "Usage: cabind [-v]... <bake | check | explain> [options]",
  "",
  "bake     generate the bindings of a schema",
  "check    look for what is wrong with a schema",
  "explain  show the pipeline and the C functions of every class",
  "",
  "-c, --config <path>     the schema (cabind.toml)",
  "-o, --output <path>     bake: the output directory (.)",
  "--dry-run               bake: print the files and write nothing",
  "--no-raw                bake: leave the raw bindings out",
  "--dump-model <path>     bake: dump the model after each phase"].map (· ++ "\n"))

/-- Generates from a manifest. -/
def runBake (runner : Runner) (files : FileSystem) (manifest : Manifest) (options : BakeOptions) :
    Outcome × FileSystem :=
  match manifest.bake options runner ⟨files, []⟩ with
  | .ok report workshop => (.report report.lines 0, workshop.files)
  | .error failure workshop => (.ofFailure failure, workshop.files)

/-- Checks a manifest. -/
def runCheck (manifest : Manifest) (config : String) : Outcome :=
  match manifest.check config with
  | .ok report => .report report.lines (if report.isValid then 0 else 1)
  | .error failure => .ofFailure failure

/-- Explains a manifest. -/
def runExplain (manifest : Manifest) (config : String) : Outcome :=
  match manifest.explain config with
  | .ok report => .report report.lines 0
  | .error failure => .ofFailure failure

/-- Does something with the manifest in a file, or fails if there is none. -/
def withManifest (files : FileSystem) (config : String)
    (body : Manifest → Outcome × FileSystem) : Outcome × FileSystem :=
  match Manifest.read files config with
  | .error error => (.unread error, files)
  | .ok manifest => body manifest

/-- Carries out a request. -/
def Request.run (request : Request) (runner : Runner) (files : FileSystem) :
    Outcome × FileSystem :=
  match request with
  | .help => ({ exit := 0, stdout := helpText }, files)
  | .version => ({ exit := 0, stdout := versionText }, files)
  | .check config => withManifest files config fun manifest => (runCheck manifest config, files)
  | .explain config =>
    withManifest files config fun manifest => (runExplain manifest config, files)
  | .bake config options =>
    withManifest files config fun manifest => runBake runner files manifest options

/-- Runs a command line. -/
def run (runner : Runner) (files : FileSystem) (arguments : List String) : Outcome × FileSystem :=
  match Request.ofArguments arguments with
  | .ok request => request.run runner files
  | .error error => (.mistaken error, files)

end ClassBridge.CommandLine
