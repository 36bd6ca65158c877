import ClassBridge.Text.Blank
import ClassBridge.Text.Lines
import ClassBridge.Text.Search

/-!
# Where a name stands in a schema

`Span.ofName?` looks for the place that most likely declares a name: a table header, a key of an
inline table, or a key at the start of a line, in this order.  A span counts UTF-8 bytes.  A name
that stands in none of these places has no span, since no span is better than a wrong one.
-/

namespace ClassBridge

/-- A stretch of a text, in UTF-8 bytes. -/
structure Span where
  offset : Nat
  length : Nat
  deriving DecidableEq, Repr

namespace Span

/-- A form in which a name may be declared: the text before the name and the text after it. -/
structure Form where
  before : String
  after : String
  /-- How many bytes from its beginning the form has the name. -/
  skip : Nat
  deriving DecidableEq, Repr

/-- The forms of a table header that has the name as its last part, as an inner part, or quoted. -/
def headerForms : List Form := [⟨".", "]", 1⟩, ⟨".", ".", 1⟩, ⟨".\"", "\"", 2⟩]

/-- The forms of a key in an inline table. -/
def inlineForms : List Form := [
  ⟨"\x7b ", " ", 2⟩, ⟨"\x7b ", "=", 2⟩, ⟨"\x7b", "=", 1⟩, ⟨", ", " ", 2⟩, ⟨", ", "=", 2⟩,
  ⟨"\x7b \"", "\"", 3⟩, ⟨", \"", "\"", 3⟩]

/-- The text of a form around a name. -/
def Form.pattern (form : Form) (name : List Char) : List Char :=
  form.before.toList ++ name ++ form.after.toList

/-- The span of a name at the first place where it stands in a form. -/
def inForm? (text name : List Char) (form : Form) : Option Span :=
  (Text.find? (form.pattern name) text).map fun offset =>
    ⟨offset + form.skip, Text.byteLength name⟩

/-- Whether a line, after its leading blanks, assigns to the name; what is left of the line. -/
def isKeyLine (name line : List Char) : Bool :=
  match Text.dropStart? name (Text.trimStart line) with
  | some rest => (Text.trimStart rest).head? == some '='
  | none => false

/-- The span of a name at the start of the first line that assigns to it. -/
def inLines? (name : List Char) : (offset : Nat) → List (List Char) → Option Span
  | _, [] => none
  | offset, line :: rest =>
    if isKeyLine name line then
      some ⟨offset + Text.byteLength (line.takeWhile Text.isBlank), Text.byteLength name⟩
    else inLines? name (offset + Text.byteLength line) rest

/-- The span of the place that most likely declares a name. -/
def ofName? (text name : String) : Option Span :=
  match (headerForms ++ inlineForms).findSome? (inForm? text.toList name.toList) with
  | some span => some span
  | none => inLines? name.toList 0 (Text.closedLines text.toList)

end Span

end ClassBridge
