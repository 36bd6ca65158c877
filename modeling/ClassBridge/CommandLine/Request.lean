import ClassBridge.CommandLine.Options
import ClassBridge.FrontEnd.Bake

/-!
# Requests

What a command line asks for.  Options that belong to no command may stand before the command or
after it.
-/

namespace ClassBridge.CommandLine

/-- What a command line asks for. -/
inductive Request where
  | bake (config : String) (options : BakeOptions)
  | check (config : String)
  | explain (config : String)
  | help
  | version
  deriving DecidableEq, Repr

namespace OptionSpec

/-- More log lines. -/
def verbose : OptionSpec := ⟨"verbose", some 'v', .counter⟩

/-- The help text. -/
def help : OptionSpec := ⟨"help", some 'h', .help⟩

/-- The version of the program. -/
def version : OptionSpec := ⟨"version", some 'V', .version⟩

/-- The path of the schema. -/
def config : OptionSpec := ⟨"config", some 'c', .value⟩

/-- The output directory. -/
def output : OptionSpec := ⟨"output", some 'o', .value⟩

/-- A preview instead of a generation. -/
def dryRun : OptionSpec := ⟨"dry-run", none, .flag⟩

/-- No raw bindings. -/
def noRaw : OptionSpec := ⟨"no-raw", none, .flag⟩

/-- The directory for dumped models. -/
def dumpModel : OptionSpec := ⟨"dump-model", none, .value⟩

end OptionSpec

/-- The commands. -/
inductive Verb where
  | bake
  | check
  | explain
  deriving DecidableEq, Repr

namespace Verb

/-- The name of a command. -/
def name : Verb → String
  | .bake => "bake"
  | .check => "check"
  | .explain => "explain"

/-- All commands. -/
def all : List Verb := [.bake, .check, .explain]

/-- The command of a name. -/
def ofName? (name : String) : Option Verb := all.find? fun verb => verb.name == name

/-- The options of a command. -/
def specs : Verb → List OptionSpec
  | .bake => [.config, .output, .dryRun, .noRaw, .dumpModel, .verbose, .help]
  | .check => [.config, .verbose, .help]
  | .explain => [.config, .verbose, .help]

/-- The request of a command with options. -/
def request (verb : Verb) (uses : Uses) : Request :=
  let config := (uses.lookup "config").getD "cabind.toml"
  match verb with
  | .check => .check config
  | .explain => .explain config
  | .bake =>
    .bake config {
      output := (uses.lookup "output").getD "."
      dryRun := (uses.lookup "dry-run").isSome
      raw := (uses.lookup "no-raw").isNone
      dump := uses.lookup "dump-model" }

end Verb

/-- The options that may stand before a command. -/
def commonSpecs : List OptionSpec := [.verbose, .help, .version]

/-- Reads the arguments of the help command: nothing, or the name of a command. -/
def readHelp : List String → Except Stop Request
  | [] => .error .help
  | [name] =>
    if name = "help" || (Verb.ofName? name).isSome then .error .help
    else .error (.mistake (.unknownCommand name))
  | _ :: word :: _ => .error (.mistake (.unknownCommand word))

/-- Reads the arguments of a command. -/
def readCommand (name : String) (arguments : List String) : Except Stop Request :=
  if name = "help" then readHelp arguments
  else match Verb.ofName? name with
    | none => .error (.mistake (.unknownCommand name))
    | some verb => do
      match ← readOptions verb.specs {} arguments with
      | (uses, none) => return verb.request uses
      | (_, some (word, _)) => .error (.mistake (.unexpected word))

/-- Reads a whole command line, up to where it stops. -/
def readArguments (arguments : List String) : Except Stop Request := do
  match ← readOptions commonSpecs {} arguments with
  | (_, none) => .error (.mistake .missingCommand)
  | (_, some (name, rest)) => readCommand name rest

/-- The request of a command line. -/
def Request.ofArguments (arguments : List String) : Except UsageError Request :=
  match readArguments arguments with
  | .ok request => .ok request
  | .error .help => .ok .help
  | .error .version => .ok .version
  | .error (.mistake error) => .error error

end ClassBridge.CommandLine
