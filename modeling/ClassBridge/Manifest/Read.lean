import ClassBridge.FileSystem.Basic
import ClassBridge.Manifest.Load

/-!
# Reading a manifest

A manifest is read from a file, which has to be there and has to hold text.
-/

namespace ClassBridge

/-- Why a schema file gives no text. -/
inductive ReadFault where
  | file (error : FileError)
  | notText
  deriving DecidableEq, Repr

/-- The text of the reason. -/
def ReadFault.message : ReadFault → String
  | .file error => error.message
  | .notText => "stream did not contain valid UTF-8"

/-- Why a schema file is not a manifest. -/
inductive ReadError where
  | unreadable (path : String) (fault : ReadFault)
  | schema (error : SchemaError)
  deriving DecidableEq, Repr

namespace ReadError

/-- The text of the error itself. -/
def message : ReadError → String
  | .unreadable path _ => "cannot read schema '" ++ path ++ "'"
  | .schema error => error.message

/-- What may help against the error. -/
def help? : ReadError → Option String
  | .unreadable _ _ => some "pass the schema path with --config"
  | .schema (.badName error) => some error.help
  | .schema _ => none

end ReadError

/-- The text of a file. -/
def FileSystem.readText (files : FileSystem) (path : String) : Except ReadFault String :=
  match files.read path with
  | .error error => .error (.file error)
  | .ok content =>
    match String.fromUTF8? content with
    | none => .error .notText
    | some text => .ok text

/-- The manifest in a file. -/
def Manifest.read (files : FileSystem) (path : String) : Except ReadError Manifest :=
  match files.readText path with
  | .error fault => .error (.unreadable path fault)
  | .ok text => (Manifest.ofText text).mapError .schema

end ClassBridge
