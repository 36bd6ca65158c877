import ClassBridge.Decimal.Shortest
import ClassBridge.Manifest.Basic
import ClassBridge.Text.Quoted
import ClassBridge.Toml.Value

/-!
# From documents to manifests

**Records.**  A record of the schema is described by its `Field`s in declaration order.  It may be
written as a table, whose keys are looked at in document order before missing fields are, or as an
array of its fields in declaration order.

**Errors.**  Decoding stops at the first mismatch.  A `Mismatch` says what was found and what was
expected there, and `Mismatch.message` puts it into words.
-/

namespace ClassBridge.Manifest

open Toml (Value FloatLiteral)

/-- What the schema expects at a place. -/
inductive Expectation where
  | string
  | boolean
  | sequence
  | map
  | lifecycle
  | record (name : String)
  deriving DecidableEq, Repr

/-- The wording of an expectation. -/
def Expectation.words : Expectation → String
  | .string => "a string"
  | .boolean => "a boolean"
  | .sequence => "a sequence"
  | .map => "a map"
  | .lifecycle => "true, false or \"trivial\""
  | .record name => "struct " ++ name

/-- What stands at a place instead. -/
inductive Found where
  | integer (value : Int)
  /-- A finite float, by its decimal text, or the name of another one. -/
  | float (text : String)
  | boolean (value : Bool)
  | string (text : String)
  | sequence
  | map
  deriving DecidableEq, Repr

/-- Why a document is not a manifest. -/
inductive Mismatch where
  | missingField (name : String)
  | unknownField (name : String) (known : List String)
  | invalidType (found : Found) (expected : Expectation)
  | invalidValue (text : String) (expected : Expectation)
  | invalidLength (given : Nat) (record : String) (size : Nat)
  | integerOverflow
  | floatOverflow
  deriving DecidableEq, Repr

/-- A power of two, as a bound of integers. -/
def twoTo (n : Nat) : Int := Int.ofNat (Nat.pow 2 n)

/-- An integer in words; one beyond 64 bits is called by its width. -/
def integerWords (value : Int) : String :=
  let text := toString value
  if value < -twoTo 63 then s!"integer `{text}` as i128"
  else if value < twoTo 64 then s!"integer `{text}`"
  else if value < twoTo 127 then s!"integer `{text}` as i128"
  else s!"integer `{text}` as u128"

/-- The wording of what was found. -/
def Found.words : Found → String
  | .integer value => integerWords value
  | .float text => "floating point `" ++ text ++ "`"
  | .boolean value => "boolean `" ++ (if value then "true" else "false") ++ "`"
  | .string text => "string " ++ Text.quoted text
  | .sequence => "sequence"
  | .map => "map"

/-- Names between backquotes, joined as alternatives. -/
def alternatives (names : List String) : String :=
  let shown := names.map fun name => "`" ++ name ++ "`"
  match shown with
  | [a, b] => "expected " ++ a ++ " or " ++ b
  | _ => "expected one of " ++ String.intercalate ", " shown

/-- The wording of a mismatch. -/
def Mismatch.message : Mismatch → String
  | .missingField name => "missing field `" ++ name ++ "`"
  | .unknownField name known => "unknown field `" ++ name ++ "`, " ++ alternatives known
  | .invalidType found expected =>
    "invalid type: " ++ found.words ++ ", expected " ++ expected.words
  | .invalidValue text expected =>
    "invalid value: string " ++ Text.quoted text ++ ", expected " ++ expected.words
  | .invalidLength given record size =>
    s!"invalid length {given}, expected struct {record} with {size} elements"
  | .integerOverflow => "integer number overflowed"
  | .floatOverflow => "floating-point number overflowed"

/-- What a float is called; an overflow is one only if the text does not say so itself. -/
def floatFound (literal : FloatLiteral) : Except Mismatch Found :=
  match literal with
  | .infinite negative => .ok (.float (if negative then "-inf" else "inf"))
  | .notANumber => .ok (.float "NaN")
  | .finite negative digits exponent =>
    match Decimal.BinaryFormat.double.ofDecimal? digits exponent with
    | none => .error .floatOverflow
    | some x =>
      .ok (.float ((if negative then "-" else "") ++ (Decimal.shortest x).positional))

/-- What a value is called where another kind of value is expected. -/
def found (value : Value) : Except Mismatch Found :=
  match value with
  | .string text => .ok (.string text)
  | .integer .garbled => .error .integerOverflow
  | .integer (.whole n) =>
    if n < -twoTo 127 ∨ twoTo 128 ≤ n then .error .integerOverflow else .ok (.integer n)
  | .float literal => floatFound literal
  | .boolean b => .ok (.boolean b)
  | .datetime _ => .ok .map
  | .array _ => .ok .sequence
  | .table _ => .ok .map

/-- The refusal of a value that is not of the expected kind. -/
def refuse {α : Type} (value : Value) (expected : Expectation) : Except Mismatch α := do
  throw (.invalidType (← found value) expected)

/-- The key under which a point in time shows its text when it is read as a table. -/
def datetimeKey : String := "$__toml_private_datetime"

/-- The entries of a value that can be read as a table: tables, and points in time, which have a
single entry. -/
def entries? : Value → Option (List (String × Value))
  | .table entries => some entries
  | .datetime text => some [(datetimeKey, .string text)]
  | _ => none

/-- A text. -/
def decodeString : Value → Except Mismatch String
  | .string text => .ok text
  | value => refuse value .string

/-- A truth value. -/
def decodeBool : Value → Except Mismatch Bool
  | .boolean b => .ok b
  | value => refuse value .boolean

/-- A policy, as a truth value or by its spelling. -/
def decodeLifecycle : Value → Except Mismatch Lifecycle
  | .boolean b => .ok (.ofBool b)
  | .string text =>
    match Lifecycle.ofSpelling? text with
    | some policy => .ok policy
    | none => .error (.invalidValue text .lifecycle)
  | value => refuse value .lifecycle

/-- A list of texts. -/
def decodeStrings : Value → Except Mismatch (List String)
  | .array items => items.mapM decodeString
  | value => refuse value .sequence

/-- Named entries, in document order. -/
def decodeMap {α : Type} (decode : Value → Except Mismatch α) (value : Value) :
    Except Mismatch (List (String × α)) :=
  match entries? value with
  | some entries => entries.mapM fun (key, value) => do return (key, ← decode value)
  | none => refuse value .map

/-- What a record has when the schema leaves a field out. -/
inductive Absence where
  /-- A default value. -/
  | defaulted
  /-- Nothing; only an array of fields has to go on up to it. -/
  | optional
  /-- An error. -/
  | required
  deriving DecidableEq, Repr

/-- A field of a record that is built up field by field. -/
structure Field (σ : Type) where
  name : String
  absence : Absence
  set : σ → Value → Except Mismatch σ

/-- A field with a default. -/
def Field.defaulted {σ α : Type} (name : String) (decode : Value → Except Mismatch α)
    (put : σ → α → σ) : Field σ :=
  ⟨name, .defaulted, fun record value => do return put record (← decode value)⟩

/-- A field that may be left out. -/
def Field.optional {σ α : Type} (name : String) (decode : Value → Except Mismatch α)
    (put : σ → α → σ) : Field σ :=
  ⟨name, .optional, fun record value => do return put record (← decode value)⟩

/-- A field that has to be there. -/
def Field.required {σ α : Type} (name : String) (decode : Value → Except Mismatch α)
    (put : σ → α → σ) : Field σ :=
  ⟨name, .required, fun record value => do return put record (← decode value)⟩

/-- The description of a record: its name, its fields in order, and what it is with all of them
left out. -/
structure Record (σ : Type) where
  name : String
  fields : List (Field σ)
  start : σ

namespace Record

variable {σ : Type}

/-- A record from the entries of a table. -/
def ofEntries (record : Record σ) (entries : List (String × Value)) : Except Mismatch σ := do
  let result ← entries.foldlM (fun value (key, entry) =>
    match record.fields.find? fun field => field.name == key with
    | some field => field.set value entry
    | none => throw (.unknownField key (record.fields.map (·.name)))) record.start
  match record.fields.find? fun field =>
      field.absence == .required && !entries.any fun entry => entry.1 == field.name with
  | some field => throw (.missingField field.name)
  | none => return result

/-- A record from an array of its fields in order; what goes beyond the fields is ignored. -/
def ofItems (record : Record σ) (items : List Value) : Except Mismatch σ := do
  let given := record.fields.zip items
  let result ← given.foldlM (fun value (field, item) => field.set value item) record.start
  match (record.fields.drop items.length).findIdx? fun field => field.absence != .defaulted with
  | some index =>
    throw (.invalidLength (items.length + index) record.name record.fields.length)
  | none => return result

/-- A record from a value. -/
def decode (record : Record σ) (value : Value) : Except Mismatch σ :=
  match value with
  | .array items => record.ofItems items
  | value =>
    match entries? value with
    | some entries => record.ofEntries entries
    | none => refuse value (.record record.name)

end Record

/-- The record of a method. -/
def methodRecord : Record MethodDecl where
  name := "MethodDescriptor"
  start := {}
  fields := [
    .defaulted "params" (decodeMap decodeString) fun m params => { m with params },
    .optional "return" decodeString fun m type => { m with returnType := some type },
    .required "body" decodeString fun m body => { m with body },
    .defaulted "const" decodeBool fun m isConst => { m with isConst },
    .defaulted "static" decodeBool fun m isStatic => { m with isStatic }]

/-- The record of a class. -/
def classRecord : Record ClassDecl where
  name := "ClassDescriptor"
  start := {}
  fields := [
    .defaulted "dtor" decodeLifecycle fun c dtor => { c with dtor },
    .defaulted "default-ctor" decodeLifecycle fun c defaultCtor => { c with defaultCtor },
    .defaulted "copy-ctor" decodeLifecycle fun c copyCtor => { c with copyCtor },
    .defaulted "copy-assign" decodeLifecycle fun c copyAssign => { c with copyAssign },
    .defaulted "movable" decodeBool fun c movable => { c with movable },
    .defaulted "eq" decodeBool fun c eq => { c with eq },
    .defaulted "ord" decodeBool fun c ord => { c with ord },
    .defaulted "layout" (decodeMap decodeString) fun c layout => { c with layout },
    .defaulted "methods" (decodeMap methodRecord.decode) fun c methods => { c with methods },
    .defaulted "managed-object" decodeBool fun c managedObject => { c with managedObject },
    .defaulted "managed-object-default-ctor" decodeBool fun c managedObjectDefaultCtor =>
      { c with managedObjectDefaultCtor },
    .optional "overwrite-name" decodeString fun c name => { c with overwriteName := some name },
    .optional "overwrite-include" decodeString fun c name =>
      { c with overwriteInclude := some name }]

/-- The record of a container. -/
def instantiationRecord : Record Instantiation where
  name := "ContainerInstantiation"
  start := {}
  fields := [
    .required "native" decodeString fun c native => { c with native },
    .required "foreign" decodeString fun c foreign => { c with foreign }]

/-- The record of the container template. -/
def templateRecord : Record ContainerTemplate where
  name := "ContainerConfig"
  start := {}
  fields := [
    .defaulted "template" decodeString fun c template => { c with template },
    .defaulted "include" decodeString fun c includeName => { c with includeName }]

/-- The record of the output names. -/
def outputRecord : Record OutputNames where
  name := "OutputConfig"
  start := {}
  fields := [
    .defaulted "header" decodeString fun o header => { o with header },
    .defaulted "source" decodeString fun o source => { o with source },
    .defaulted "glue" decodeString fun o glue => { o with glue },
    .defaulted "containers" decodeString fun o containers => { o with containers },
    .defaulted "raw" decodeString fun o raw => { o with raw }]

/-- The record of the raw settings. -/
def rawRecord : Record RawSettings where
  name := "RawConfig"
  start := {}
  fields := [
    .defaulted "enabled" decodeBool fun r enabled => { r with enabled },
    .defaulted "tool" decodeString fun r tool => { r with tool },
    .defaulted "rust-target" decodeString fun r foreignTarget => { r with foreignTarget },
    .defaulted "clang-args" decodeStrings fun r headerArgs => { r with headerArgs }]

/-- The record of a whole schema. -/
def manifestRecord : Record Manifest where
  name := "Manifest"
  start := {}
  fields := [
    .defaulted "prefix" decodeString fun m symbolPrefix => { m with symbolPrefix },
    .optional "prelude" decodeString fun m prelude => { m with prelude := some prelude },
    .defaulted "includes" decodeStrings fun m includes => { m with includes },
    .defaulted "classes" (decodeMap classRecord.decode) fun m classes => { m with classes },
    .defaulted "containers" (decodeMap instantiationRecord.decode) fun m containers =>
      { m with containers },
    .defaulted "container" templateRecord.decode fun m container => { m with container },
    .defaulted "output" outputRecord.decode fun m output => { m with output },
    .defaulted "raw" rawRecord.decode fun m raw => { m with raw }]

/-- The manifest of a document. -/
def ofDocument (document : List (String × Value)) : Except Mismatch Manifest :=
  manifestRecord.ofEntries document

end ClassBridge.Manifest
