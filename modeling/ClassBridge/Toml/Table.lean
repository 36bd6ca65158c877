import ClassBridge.Toml.Value

/-!
# Tables under construction

A table grows while its document is read: headers open tables, assignments fill them, and dotted
keys create tables on the way.  How a table came about decides who may still add to it.

* A table that was opened by its own header, or that a header path passed through only, may be
  entered by further headers.
* A header may open a table once.  It may also claim a table that other headers only passed
  through; the claimed table then moves behind the keys its parent has by then.
* A dotted key enters the tables that dotted keys or header paths created, and adds only to those
  that dotted keys created.
* Values, inline tables among them, are closed.
-/

namespace ClassBridge.Toml

/-- How a table under construction came about. -/
inductive TableOrigin where
  /-- Its own header opened it. -/
  | opened
  /-- The path of a header passed through it. -/
  | passed
  /-- A dotted key created it. -/
  | dotted
  deriving DecidableEq, Repr

/-- What a key of a table under construction stands for. -/
inductive Draft where
  | value (value : Value)
  | table (origin : TableOrigin) (entries : List (String × Draft))
  /-- The tables of an array of tables, the last one first; `latest` is still growing. -/
  | series (earlier : List (List (String × Draft))) (latest : List (String × Draft))

/-- The keys of a table under construction, in the order in which they appeared. -/
abbrev Entries : Type := List (String × Draft)

namespace Entries

/-- What a key stands for. -/
def get? (entries : Entries) (key : String) : Option Draft :=
  (entries.find? fun entry => entry.1 == key).map (·.2)

/-- A key replaced in its place. -/
def replace (entries : Entries) (key : String) (draft : Draft) : Entries :=
  entries.map fun entry => if entry.1 == key then (key, draft) else entry

/-- A key taken out. -/
def erase (entries : Entries) (key : String) : Entries :=
  entries.filter fun entry => entry.1 != key

end Entries

/-- Who walks along a path of keys. -/
inductive Walker where
  | header
  | dottedKey
  deriving DecidableEq, Repr

/-- How a table that is missing on a path comes about. -/
def Walker.creates : Walker → TableOrigin
  | .header => .passed
  | .dottedKey => .dotted

/-- Whether a walker may enter a table. -/
def Walker.mayEnter : Walker → TableOrigin → Bool
  | .header, _ => true
  | .dottedKey, origin => origin != .opened

/-- Changes the table at the end of a path, which is created as far as it is missing.  The change
is told how that table came about. -/
def change? (walker : Walker) (edit : TableOrigin → Entries → Option Entries)
    (origin : TableOrigin) (entries : Entries) : List String → Option Entries
  | [] => edit origin entries
  | key :: path =>
    match Entries.get? entries key with
    | none => do
      let inner ← change? walker edit walker.creates [] path
      return entries ++ [(key, .table walker.creates inner)]
    | some (.table origin inner) =>
      if walker.mayEnter origin then do
        let inner ← change? walker edit origin inner path
        return Entries.replace entries key (.table origin inner)
      else none
    | some (.series earlier latest) => do
      let latest ← change? walker edit .opened latest path
      return Entries.replace entries key (.series earlier latest)
    | some (.value _) => none

/-- Adds a value under a key that is still free.  The last but one part of a dotted key has to
be a table that dotted keys created. -/
def assign? (entries : Entries) (path : List String) (key : String) (value : Value) :
    Option Entries :=
  let edit (origin : TableOrigin) (inner : Entries) : Option Entries :=
    if (origin == .dotted) != !path.isEmpty then none
    else if (Entries.get? inner key).isSome then none
    else some (inner ++ [(key, .value value)])
  change? .dottedKey edit .opened entries path

/-- The entries that a header starts from: those of a table that was only passed through so far,
else none.  The second part is the parent without them. -/
def claim? (parent : Entries) (key : String) : Option (Entries × Entries) :=
  match Entries.get? parent key with
  | none => some ([], parent)
  | some (.table .passed entries) => some (entries, Entries.erase parent key)
  | some _ => none

/-- Opens the table of a header and fills it. -/
def openTable? (root : Entries) (path : List String) (key : String)
    (fill : Entries → Option Entries) : Option Entries :=
  let edit (_ : TableOrigin) (parent : Entries) : Option Entries := do
    let (start, others) ← claim? parent key
    let entries ← fill start
    return others ++ [(key, .table .opened entries)]
  change? .header edit .opened root path

/-- Opens the next table of an array of tables and fills it. -/
def openSeries? (root : Entries) (path : List String) (key : String)
    (fill : Entries → Option Entries) : Option Entries :=
  let edit (_ : TableOrigin) (parent : Entries) : Option Entries :=
    match Entries.get? parent key with
    | none => do
      let entries ← fill []
      return parent ++ [(key, .series [] entries)]
    | some (.series earlier latest) => do
      let entries ← fill []
      return Entries.replace parent key (.series (latest :: earlier) entries)
    | some _ => none
  change? .header edit .opened root path

mutual

/-- The value that a finished draft stands for. -/
def Draft.finish : Draft → Value
  | .value value => value
  | .table _ entries => .table (finishEntries entries)
  | .series earlier latest =>
    .array (finishSeries earlier [.table (finishEntries latest)])

/-- The values of finished entries. -/
def finishEntries : List (String × Draft) → List (String × Value)
  | [] => []
  | (key, draft) :: rest => (key, draft.finish) :: finishEntries rest

/-- The finished tables of an array of tables, in front of those already finished. -/
def finishSeries : List (List (String × Draft)) → List Value → List Value
  | [], done => done
  | entries :: earlier, done => finishSeries earlier (.table (finishEntries entries) :: done)

end

end ClassBridge.Toml
