import ClassBridge.FileSystem.Basic
import ClassBridge.Manifest.Basic
import ClassBridge.Text.Utf8

/-!
# Translators

A translator turns the native header into raw foreign declarations.  It may read files, and it may
note something in a journal, but it changes no file.
-/

namespace ClassBridge

/-- Settings of one run of a translator. -/
structure TranslatorFlags where
  /-- The oldest version of the foreign language that has to read the result. -/
  foreignTarget : String
  /-- Arguments for the reader of the header. -/
  headerArgs : List String
  deriving DecidableEq, Repr

/-- The settings that a manifest asks for. -/
def RawSettings.flags (raw : RawSettings) : TranslatorFlags where
  foreignTarget := raw.foreignTarget
  headerArgs := raw.headerArgs

/-- Why a tool could not be started. -/
inductive StartFault where
  /-- Nothing is known but that something is missing. -/
  | entityNotFound
  /-- The command line has a NUL byte, which ends a text for the system. -/
  | nulByte
  | refused (error : FileError)
  deriving DecidableEq, Repr

/-- The text of the reason. -/
def StartFault.message : StartFault → String
  | .entityNotFound => "entity not found"
  | .nulByte => "nul byte found in provided data"
  | .refused error => error.message

/-- Why there are no raw bindings. -/
inductive TranslateError where
  /-- The tool did not start. -/
  | notStarted (tool : String) (fault : StartFault)
  /-- The tool failed on a header; a tool that a signal ended has no exit code. -/
  | failed (tool header : String) (code : Option Int) (stderr : String)
  /-- The tool printed bytes that are no text. -/
  | invalidOutput (tool : String) (fault : Utf8Fault)
  deriving DecidableEq, Repr

namespace TranslateError

/-- How a tool ended. -/
def ending : Option Int → String
  | some code => "exit status " ++ toString code
  | none => "terminated by signal"

/-- The text of the error itself. -/
def message : TranslateError → String
  | .notStarted tool _ => "failed to start '" ++ tool ++ "'"
  | .failed tool header code stderr =>
    "'" ++ tool ++ "' failed on '" ++ header ++ "' (" ++ ending code ++ ")\n" ++ stderr
  | .invalidOutput tool _ => "'" ++ tool ++ "' produced output that is not UTF-8"

/-- The text of the cause of the error, if it has one. -/
def cause? : TranslateError → Option String
  | .notStarted _ fault => some fault.message
  | .failed _ _ _ _ => none
  | .invalidOutput _ fault => some fault.message

end TranslateError

/-- A translator; the header is given by its path. -/
structure Translator (σ : Type) where
  name : String
  translate : FileSystem → (header : String) → TranslatorFlags → σ →
    Except TranslateError String × σ

end ClassBridge
