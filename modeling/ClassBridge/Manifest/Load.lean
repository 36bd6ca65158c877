import ClassBridge.Manifest.Decode
import ClassBridge.Manifest.Names
import ClassBridge.Toml.Document

/-!
# Loading a manifest

A schema text is first read as a document, as a whole; then the document is decoded; then the
names of the manifest are checked.  `SchemaError` tells the three steps apart.
-/

namespace ClassBridge

/-- Why a schema text is not a manifest. -/
inductive SchemaError where
  /-- The text is not a document. -/
  | malformed
  /-- The document is not a manifest. -/
  | mismatch (mismatch : Manifest.Mismatch)
  /-- A name of the manifest is bad. -/
  | badName (error : NameError)
  deriving DecidableEq, Repr

namespace SchemaError

/-- The text of the error. -/
def message : SchemaError → String
  | .malformed => "malformed binding schema"
  | .mismatch _ => "malformed binding schema"
  | .badName error => error.message

end SchemaError

namespace Manifest

/-- The manifest of a schema text. -/
def ofText (text : String) : Except SchemaError Manifest :=
  match Toml.document? text with
  | none => .error .malformed
  | some document =>
    match ofDocument document with
    | .error mismatch => .error (.mismatch mismatch)
    | .ok manifest =>
      match manifest.checkNames text with
      | .error error => .error (.badName error)
      | .ok () => .ok manifest

end Manifest

end ClassBridge
