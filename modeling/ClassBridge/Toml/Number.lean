import ClassBridge.Toml.Lexeme
import ClassBridge.Toml.Value

/-!
# Numbers of a schema document

An integer is written in base ten, with an optional sign and no leading zero, or in base sixteen,
eight or two after `0x`, `0o` or `0b`.  A float is a decimal integer followed by a fraction, an
exponent or both.  Underscores may separate digits.

**Garbled integers.**  Once a word has begun as an integer does, with a prefix or with digits and
an underscore, it counts as an integer as far as the document is concerned.  Whether digits make
up all of it shows where the number is used.
-/

namespace ClassBridge.Toml

/-- A sign, if there is one, and the word after it; the flag holds for a minus. -/
def splitSign : List Char → Bool × List Char
  | '-' :: cs => (true, cs)
  | '+' :: cs => (false, cs)
  | cs => (false, cs)

/-- A number with the sign of a word. -/
def withSign (negative : Bool) (n : Nat) : Int := if negative then -(n : Int) else n

/-- Whether every underscore of a word has a digit right before it and right after it.  The flag
tells whether one may begin the word, as it may after a sign. -/
def separatorsFit (isDigit : Char → Bool) : (mayBegin : Bool) → List Char → Bool
  | _, [] => true
  | mayBegin, '_' :: cs =>
    mayBegin && (cs.head?.any isDigit) && separatorsFit isDigit false cs
  | _, c :: cs => separatorsFit isDigit (isDigit c) cs

/-- The integer that a word without underscores spells. -/
def integerLiteral (base : Nat) (negative : Bool) (cs : List Char) : IntegerLiteral :=
  if cs.isEmpty then .garbled
  else match cs.mapM (Text.digit? base) with
    | some digits => .whole (withSign negative (Text.ofDigits base digits))
    | none => .garbled

/-- A word without its underscores. -/
def withoutSeparators (cs : List Char) : List Char := cs.filter (· != '_')

/-- An integer after the prefix of its base. -/
def basedInteger? (base : Nat) (cs : List Char) : Option IntegerLiteral :=
  let isDigit := Text.isDigit base
  if cs.all (fun c => c == '_' || isDigit c) && separatorsFit isDigit false cs then
    some (integerLiteral base false (withoutSeparators cs))
  else none

/-- A decimal integer after its sign: no zero before anything else, and underscores between
digits; those of base sixteen pass for digits here. -/
def decimalInteger? (signed negative : Bool) (cs : List Char) : Option IntegerLiteral :=
  match cs with
  | '0' :: _ :: _ => none
  | cs =>
    if separatorsFit (Text.isDigit 16) signed cs then
      some (integerLiteral 10 negative (withoutSeparators cs))
    else none

/-- Decimal digits, at least one, and underscores at the front of a text. -/
def digitRun? : Reader (List Nat) := fun cs =>
  let isOfRun (c : Char) : Bool := c.isDigit || c == '_'
  match (cs.takeWhile isOfRun).filterMap (Text.digit? 10) with
  | [] => none
  | digits => some (digits, cs.dropWhile isOfRun)

/-- The digits of a fraction, if there is one. -/
def fraction? : Reader (List Nat)
  | '.' :: cs => digitRun? cs
  | cs => some ([], cs)

/-- Whether a character marks the exponent of a float. -/
def isExponentMark (c : Char) : Bool := c == 'e' || c == 'E'

/-- An exponent, which may begin with zeros; it is zero if there is none. -/
def exponent? : Reader Int
  | [] => some (0, [])
  | c :: cs =>
    if isExponentMark c then
      let (negative, cs) := splitSign cs
      (digitRun? cs).map fun (digits, rest) => (withSign negative (Text.ofDigits 10 digits), rest)
    else some (0, c :: cs)

/-- A float after its sign. -/
def decimalFloat? (signed negative : Bool) (cs : List Char) : Option FloatLiteral := do
  let (whole, rest) ← digitRun? cs
  if cs.head? == some '0' && whole.length != 1 then none
  let (fraction, rest) ← fraction? rest
  let (exponent, rest) ← exponent? rest
  if rest.isEmpty && separatorsFit Char.isDigit signed cs then
    some (.finite negative (Text.ofDigits 10 (whole ++ fraction)) (exponent - fraction.length))
  else none

end ClassBridge.Toml
