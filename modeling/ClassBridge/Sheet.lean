import ClassBridge.Text.Blank
import ClassBridge.Text.Lines

/-!
# Sheets of generated text

**The sheet.**  A `Sheet` is text under construction, together with the depth at which the next
line is written.

**Scripts.**  A `Script` says what to write as a value: lines, pasted fragments, comments, blocks.
Running a script only ever adds text at the end of the sheet, and what it adds depends on the depth
at which it starts and on nothing that stands on the sheet.
-/

namespace ClassBridge

/-- What one level of indentation is written as. -/
inductive Indent where
  | fourSpaces
  | twoSpaces
  | tab
  deriving DecidableEq, Repr

/-- The text of one level. -/
def Indent.unit : Indent → String
  | .fourSpaces => "    "
  | .twoSpaces => "  "
  | .tab => "\t"

/-- The text of `depth` levels. -/
def Indent.pad (indent : Indent) : Nat → String
  | 0 => ""
  | depth + 1 => indent.unit ++ indent.pad depth

/-- Text under construction. -/
structure Sheet where
  indent : Indent
  depth : Nat
  text : String
  deriving DecidableEq, Repr

namespace Sheet

/-- A sheet with nothing on it. -/
def blankSheet (indent : Indent) : Sheet := ⟨indent, 0, ""⟩

/-- The text added at the end of the sheet, as it is. -/
def append (sheet : Sheet) (text : String) : Sheet := { sheet with text := sheet.text ++ text }

/-- One indented line. -/
def line (sheet : Sheet) (text : String) : Sheet :=
  sheet.append (sheet.indent.pad sheet.depth ++ text ++ "\n")

/-- An empty line, which carries no indentation. -/
def blank (sheet : Sheet) : Sheet := sheet.append "\n"

/-- A line comment. -/
def comment (sheet : Sheet) (text : String) : Sheet := sheet.line ("// " ++ text)

/-- One line of a pasted fragment: a line of blanks only is written empty. -/
def pastedLine (sheet : Sheet) (text : String) : Sheet :=
  if Text.isBlankText text then sheet.blank else sheet.line text

/-- Every line of a fragment, at the depth of the sheet. -/
def lines (sheet : Sheet) (fragment : String) : Sheet :=
  (Text.fragmentLines fragment).foldl pastedLine sheet

/-- One level deeper. -/
def deeper (sheet : Sheet) : Sheet := { sheet with depth := sheet.depth + 1 }

/-- One level back; the outermost level stays. -/
def shallower (sheet : Sheet) : Sheet := { sheet with depth := sheet.depth - 1 }

end Sheet

/-- What to write on a sheet. -/
inductive Script where
  /-- Nothing. -/
  | skip
  /-- One script after the other. -/
  | seq (first second : Script)
  /-- One indented line. -/
  | line (text : String)
  /-- Every line of a fragment. -/
  | lines (fragment : String)
  /-- A line comment. -/
  | comment (text : String)
  /-- An empty line. -/
  | blank
  /-- One level deeper from here on. -/
  | deeper
  /-- One level back from here on. -/
  | shallower
  /-- A header line, the body one level deeper, and a closing line. -/
  | block (header close : String) (body : Script)
  /-- The body, if the condition holds. -/
  | whenever (condition : Bool) (body : Script)
  /-- The bodies of an iteration, taken together as one step. -/
  | iteration (bodies : Script)
  deriving DecidableEq, Repr, Inhabited

namespace Script

/-- The scripts of a list, in order. -/
def all (scripts : List Script) : Script := scripts.foldr seq skip

/-- The script of every item, in order. -/
def each {α : Type} (items : List α) (script : α → Script) : Script :=
  iteration (all (items.map script))

/-- The body one level deeper. -/
def nested (body : Script) : Script := seq deeper (seq body shallower)

end Script

namespace Sheet

/-- The sheet after a script. -/
def run (sheet : Sheet) : Script → Sheet
  | .skip => sheet
  | .seq first second => (sheet.run first).run second
  | .line text => sheet.line text
  | .lines fragment => sheet.lines fragment
  | .comment text => sheet.comment text
  | .blank => sheet.blank
  | .deeper => sheet.deeper
  | .shallower => sheet.shallower
  | .block header close body => ((sheet.line header).deeper.run body).shallower.line close
  | .whenever condition body => if condition then sheet.run body else sheet
  | .iteration bodies => sheet.run bodies

/-- The text of the sheet after each step of a script, the steps of a body coming before the step
they belong to. -/
def history (sheet : Sheet) : Script → List String
  | .skip => []
  | .seq first second => sheet.history first ++ (sheet.run first).history second
  | .block header close body =>
    (sheet.line header).deeper.history body ++ [(sheet.run (.block header close body)).text]
  | .whenever condition body =>
    (if condition then sheet.history body else []) ++ [(sheet.run (.whenever condition body)).text]
  | script => [(sheet.run script).text]

end Sheet

/-- The text of a script run on a blank sheet. -/
def Script.write (script : Script) (indent : Indent) : String :=
  ((Sheet.blankSheet indent).run script).text

end ClassBridge
