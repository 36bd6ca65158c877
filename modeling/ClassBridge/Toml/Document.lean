import ClassBridge.Toml.Table
import ClassBridge.Toml.Word

/-!
# Reading a schema document

**Values.**  `value?` reads one value.  Arrays and inline tables may be nested `nestingLimit` deep.

**Statements.**  A document is a sequence of statements, one a line: headers and assignments.
`statements?` reads them all before any of them takes effect.

**Documents.**  `document?` lets the statements take effect in order.  It has no answer exactly
when the text is malformed; where and why is not part of this library's interface.
-/

namespace ClassBridge.Toml

/-- How deep arrays and inline tables may be nested. -/
def nestingLimit : Nat := 80

/-- The items of an array after its opening bracket.  The fuel bounds the number of items. -/
def items? (item : Reader Value) : (fuel : Nat) → Reader (List Value)
  | 0, _ => none
  | fuel + 1, cs => do
    match ← skipTrivia cs with
    | ']' :: rest => return ([], rest)
    | cs =>
      let (value, rest) ← item cs
      match ← skipTrivia rest with
      | ',' :: rest =>
        let (values, rest) ← items? item fuel rest
        return (value :: values, rest)
      | ']' :: rest => return ([value], rest)
      | _ => none

/-- A key of an inline table and its value. -/
def pair? (item : Reader Value) : Reader (List String × Value) := fun cs => do
  let (key, rest) ← key? cs
  match ← skipTrivia rest with
  | '=' :: rest =>
    let (value, rest) ← item (← skipTrivia rest)
    return ((key, value), rest)
  | _ => none

/-- The pairs of an inline table after its opening brace.  The fuel bounds their number. -/
def pairs? (item : Reader Value) : (fuel : Nat) → Reader (List (List String × Value))
  | 0, _ => none
  | fuel + 1, cs => do
    match ← skipTrivia cs with
    | '\x7d' :: rest => return ([], rest)
    | cs =>
      let (pair, rest) ← pair? item cs
      match ← skipTrivia rest with
      | ',' :: rest =>
        let (pairs, rest) ← pairs? item fuel rest
        return (pair :: pairs, rest)
      | '\x7d' :: rest => return ([pair], rest)
      | _ => none

/-- Adds a value under a key of one or more parts. -/
def assignPath? (entries : Entries) (path : List String) (value : Value) : Option Entries :=
  match path.getLast? with
  | none => none
  | some key => assign? entries path.dropLast key value

/-- The table of the pairs of an inline table. -/
def inlineTable? (pairs : List (List String × Value)) : Option Value :=
  (pairs.foldlM (fun entries (path, value) => assignPath? entries path value) []).map
    fun entries => .table (finishEntries entries)

/-- A string as a value. -/
def stringValue? : Reader Value := fun cs =>
  (string? cs).map fun (text, rest) => (.string text, rest)

/-- A value, with a limit to how deep it may be nested. -/
def value? : (depth : Nat) → Reader Value
  | _, '"' :: cs => stringValue? ('"' :: cs)
  | _, '\'' :: cs => stringValue? ('\'' :: cs)
  | 0, '[' :: _ => none
  | 0, '\x7b' :: _ => none
  | depth + 1, '[' :: rest =>
    (items? (value? depth) (rest.length + 1) rest).map fun (values, rest) => (.array values, rest)
  | depth + 1, '\x7b' :: rest => do
    let (pairs, rest) ← pairs? (value? depth) (rest.length + 1) rest
    return (← inlineTable? pairs, rest)
  | _, cs => word? cs

/-- One line of a document. -/
inductive Statement where
  /-- The header of a table. -/
  | header (path : List String)
  /-- The header of the next table of an array of tables. -/
  | seriesHeader (path : List String)
  | assignment (path : List String) (value : Value)
  deriving Repr

/-- A statement at the front of a text, up to its last character. -/
def statement? : Reader Statement
  | '[' :: '[' :: cs => do
    let (path, rest) ← key? (skipBlanks cs)
    match rest with
    | ']' :: ']' :: rest => return (.seriesHeader path, rest)
    | _ => none
  | '[' :: cs => do
    let (path, rest) ← key? (skipBlanks cs)
    match rest with
    | ']' :: rest => return (.header path, rest)
    | _ => none
  | cs => do
    let (path, rest) ← key? cs
    match rest with
    | '=' :: rest =>
      let (value, rest) ← value? nestingLimit (skipBlanks rest)
      return (.assignment path value, rest)
    | _ => none

/-- The statements of a text.  The fuel bounds their number. -/
def statementsWithin? : (fuel : Nat) → List Char → Option (List Statement)
  | 0, _ => none
  | fuel + 1, cs => do
    match ← skipTrivia cs with
    | [] => return []
    | cs =>
      let (statement, rest) ← statement? cs
      let statements ← statementsWithin? fuel (← endOfLine? rest)
      return statement :: statements

/-- The statements of a text. -/
def statements? (cs : List Char) : Option (List Statement) :=
  statementsWithin? (cs.length + 1) cs

/-- The text without the byte order mark that may begin it. -/
def skipByteOrderMark : List Char → List Char
  | '\ufeff' :: cs => cs
  | cs => cs

/-- The assignments up to the next header, and the statements from that header on. -/
def splitSection : List Statement → List (List String × Value) × List Statement
  | .assignment path value :: rest =>
    let (assignments, rest) := splitSection rest
    ((path, value) :: assignments, rest)
  | rest => ([], rest)

/-- Adds assignments to a table. -/
def fill? (assignments : List (List String × Value)) (entries : Entries) : Option Entries :=
  assignments.foldlM (fun entries (path, value) => assignPath? entries path value) entries

/-- The effect of one section, a header with the assignments below it. -/
def section? (root : Entries) (header : Statement) (assignments : List (List String × Value)) :
    Option Entries :=
  match header with
  | .header path => do
    let key ← path.getLast?
    openTable? root path.dropLast key (fill? assignments)
  | .seriesHeader path => do
    let key ← path.getLast?
    openSeries? root path.dropLast key (fill? assignments)
  | .assignment path value => fill? ((path, value) :: assignments) root

/-- The effect of sections, in order.  The fuel bounds their number. -/
def sections? : (fuel : Nat) → Entries → List Statement → Option Entries
  | _, root, [] => some root
  | 0, _, _ => none
  | fuel + 1, root, header :: rest => do
    let (assignments, rest) := splitSection rest
    sections? fuel (← section? root header assignments) rest

/-- The table that a text describes, keys in the order of their first appearance. -/
def document? (text : String) : Option (List (String × Value)) := do
  let statements ← statements? (skipByteOrderMark text.toList)
  let root ← sections? (statements.length + 1) [] statements
  return finishEntries root

end ClassBridge.Toml
