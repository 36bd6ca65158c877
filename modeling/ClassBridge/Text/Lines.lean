import ClassBridge.Text.Cut

/-!
# Lines of a text

A text is cut at its line feeds.  `fragmentLines` reads a text as a fragment to paste: one line feed
at its end closes the last line and does not open another.  `closedLines` keeps the line feeds, so
that lines can be told by where they stand.
-/

namespace ClassBridge.Text

/-- The lines of a text, without their line feeds. -/
def splitLines (cs : List Char) : List (List Char) := cutAt '\n' cs

/-- The text without the one line feed that may end it. -/
def dropFinalFeed (cs : List Char) : List Char :=
  if cs.getLast? = some '\n' then cs.dropLast else cs

/-- The lines of a fragment: a single line feed at its end is not a line of its own. -/
def fragmentLines (fragment : String) : List String :=
  (splitLines (dropFinalFeed fragment.toList)).map String.ofList

/-- The lines of a text, each with the line feed that ends it; the last one may have none, and a
text that ends with a line feed has no empty line after it. -/
def closedLines : List Char → List (List Char)
  | [] => []
  | c :: cs =>
    if c = '\n' then [c] :: closedLines cs
    else match closedLines cs with
      | [] => [[c]]
      | line :: rest => (c :: line) :: rest

/-- The closed lines of a text, one after the other, are the text. -/
theorem flatten_closedLines (cs : List Char) : (closedLines cs).flatten = cs := by
  induction cs with
  | nil => rfl
  | cons c cs ih =>
    unfold closedLines
    split
    · simp [ih]
    · split <;> rename_i h <;> rw [h] at ih <;> simp_all

end ClassBridge.Text
