import ClassBridge.Toml.Datetime
import ClassBridge.Toml.Number

/-!
# Words of a schema document

A word is a value without quotes: a truth value, a number or a point in time.

**Extent.**  A word runs up to the next blank, line end, comment, comma, equals sign or bracket.
Blanks belong to it if another word follows them, since a point in time may have a space in it.
Quotes, controls and letters of any script are part of a word too, and are found fault with only
when its value is read.

**Value.**  `wordValue?` decides by the first characters what a word is meant to be, and then
holds it to the spelling of that kind.
-/

namespace ClassBridge.Toml

/-- Whether a character ends a word. -/
def endsWord (c : Char) : Bool := " \t\r\n#,=[]\x7b\x7d".toList.contains c

/-- Whether a word stands at the front of a text. -/
def beginsWord : List Char → Bool
  | [] => false
  | c :: _ => !(endsWord c || c == '.' || c == '"' || c == '\'')

/-- The word at the front of a text. -/
def splitWord : List Char → List Char × List Char
  | [] => ([], [])
  | c :: cs =>
    if !endsWord c || (isInlineBlank c && beginsWord (skipBlanks cs)) then
      let (word, rest) := splitWord cs
      (c :: word, rest)
    else ([], c :: cs)

/-- Whether a character tells a float from an integer. -/
def isFloatMark (c : Char) : Bool := c == '.' || isExponentMark c

/-- The value of a decimal number, after its sign, or of a point in time.  What comes after the
first digits tells which it is. -/
def decimalValue? (signed negative : Bool) (cs : List Char) : Option Value :=
  match cs.dropWhile Char.isDigit with
  | [] => if cs.isEmpty then none else (decimalInteger? signed negative cs).map .integer
  | mark :: rest =>
    if mark == '-' || mark == ':' then
      if signed then none else (datetime? cs).map .datetime
    else if (mark :: rest).any isFloatMark then
      (decimalFloat? signed negative cs).map .float
    else if mark == '_' && !rest.contains ' ' then
      (decimalInteger? signed negative cs).map .integer
    else none

/-- The value of a word after its sign. -/
def numberValue? (signed negative : Bool) (cs : List Char) : Option Value :=
  match cs with
  | ['i', 'n', 'f'] => some (.float (.infinite negative))
  | ['n', 'a', 'n'] => some (.float .notANumber)
  | '0' :: 'x' :: digits => if signed then none else (basedInteger? 16 digits).map .integer
  | '0' :: 'o' :: digits => if signed then none else (basedInteger? 8 digits).map .integer
  | '0' :: 'b' :: digits => if signed then none else (basedInteger? 2 digits).map .integer
  | cs => decimalValue? signed negative cs

/-- The value of a word. -/
def wordValue? (word : List Char) : Option Value :=
  if word = "true".toList then some (.boolean true)
  else if word = "false".toList then some (.boolean false)
  else match word with
    | '+' :: rest => numberValue? true false rest
    | '-' :: rest => numberValue? true true rest
    | word => numberValue? false false word

/-- The value of the word at the front of a text. -/
def word? : Reader Value := fun cs =>
  let (word, rest) := splitWord cs
  (wordValue? word).map fun value => (value, rest)

end ClassBridge.Toml
