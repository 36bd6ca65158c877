import ClassBridge.Decimal.Binary
import ClassBridge.StandardTools.Escape
import ClassBridge.StandardTools.Quotation

/-!
# Numbers among the arguments of `printf`

**Numerals.**  A numeral may have blanks and a sign before it.  A whole number is written in base
ten, sixteen after `0x`, two after `0b`, or eight after `0`; any other number in base ten or
sixteen, with an exponent of ten or of two.  A numeral takes in as many characters as it can.

**Characters.**  An argument that begins with a quotation mark stands for the number of the byte
after it.

**Complaints.**  An argument that is no numeral, or not only a numeral, still has a value; the
complaint about it goes with the value.
-/

namespace ClassBridge.StandardTools

/-- What is wrong with an argument that should be a number. -/
inductive Complaint where
  | notNumeric (argument : String)
  | leftOver (argument : String)
  | outOfRange (argument : String)
  /-- Only the first byte after a quotation mark counts. -/
  | ignored (rest : List UInt8)
  deriving DecidableEq, Repr

namespace Complaint

/-- Whether the tool fails because of the complaint, in the end. -/
def fails : Complaint → Bool
  | .ignored _ => false
  | _ => true

/-- An argument in quotes, and what is said about it. -/
def about (argument words : String) : List UInt8 :=
  Quotation.inMessage argument.toUTF8.toList ++ Quotation.bytesOf words

/-- The wording of a complaint. -/
def words : Complaint → List UInt8
  | .notNumeric argument => about argument ": expected a numeric value"
  | .leftOver argument => about argument ": value not completely converted"
  | .outOfRange argument => about argument ": Numerical result out of range"
  | .ignored rest =>
    Quotation.bytesOf "warning: " ++ rest
      ++ Quotation.bytesOf ": character(s) following character constant have been ignored"

end Complaint

/-- The value of an argument, and the complaints about it. -/
abbrev Reading (α : Type) : Type := α × List Complaint

namespace Numeral

/-- The number that digits denote; other characters do not count. -/
def valueOf (base : Nat) (cs : List Char) : Nat :=
  Text.ofDigits base (cs.filterMap (Text.digit? base))

/-- Whether a character may stand before a numeral. -/
def isBlank (c : Char) : Bool := c == ' ' || (9 ≤ c.toNat && c.toNat ≤ 13)

/-- The sign of a text, if there is one, and what follows it; the flag holds for a minus. -/
def splitSign : List Char → Bool × List Char
  | '-' :: rest => (true, rest)
  | '+' :: rest => (false, rest)
  | rest => (false, rest)

/-- A number with a sign. -/
def withSign (negative : Bool) (n : Nat) : Int := if negative then -(n : Int) else n

/-- Whether a text begins with a prefix of a base and a digit in that base. -/
def hasBase (base : Nat) (letter : Char) : List Char → Bool
  | '0' :: mark :: c :: _ => mark.toLower == letter && Text.isDigit base c
  | _ => false

/-- The base of a whole number, and its digits with what follows them. -/
def splitBase (cs : List Char) : Nat × List Char :=
  if hasBase 16 'x' cs then (16, cs.drop 2)
  else if hasBase 2 'b' cs then (2, cs.drop 2)
  else if cs.head? == some '0' then (8, cs)
  else (10, cs)

/-- A whole number at the front of a text: whether it is negative, its magnitude, and what follows
it. -/
def whole? (cs : List Char) : Option (Bool × Nat × List Char) :=
  let (negative, cs) := splitSign (cs.dropWhile isBlank)
  let (base, cs) := splitBase cs
  match cs.takeWhile (Text.isDigit base) with
  | [] => none
  | digits => some (negative, valueOf base digits, cs.dropWhile (Text.isDigit base))

/-- The byte after a quotation mark, and the bytes after that one. -/
def character? (argument : String) : Option (Nat × List UInt8) :=
  match argument.toUTF8.toList with
  | mark :: byte :: rest => if mark == 34 || mark == 39 then some (byte.toNat, rest) else none
  | _ => none

/-- The complaints about what follows a numeral. -/
def leftOver (argument : String) (rest : List Char) : List Complaint :=
  if rest.isEmpty then [] else [.leftOver argument]

/-- The value of an argument by one of its readers: a character, a numeral, or nothing. -/
def read {α : Type} (ofCharacter : Nat → α) (numeral? : List Char → Option (Reading α))
    (argument : String) : Reading α :=
  match character? argument with
  | some (byte, rest) => (ofCharacter byte, if rest.isEmpty then [] else [.ignored rest])
  | none =>
    match numeral? argument.toList with
    | some reading => reading
    | none => (ofCharacter 0, if argument = "" then [] else [.notNumeric argument])

/-- An argument as a signed number of 64 bits. -/
def signed (argument : String) : Reading Int :=
  let numeral? (cs : List Char) : Option (Reading Int) := do
    let (negative, n, rest) ← whole? cs
    let bound := if negative then Nat.pow 2 63 else Nat.pow 2 63 - 1
    if n ≤ bound then some (withSign negative n, leftOver argument rest)
    else some (withSign negative bound, [.outOfRange argument])
  read (fun n => (n : Int)) numeral? argument

/-- An argument as an unsigned number of 64 bits; a negative one wraps around. -/
def unsigned (argument : String) : Reading Nat :=
  let numeral? (cs : List Char) : Option (Reading Nat) := do
    let (negative, n, rest) ← whole? cs
    let bound := Nat.pow 2 64
    if n < bound then
      some (if negative then (bound - n) % bound else n, leftOver argument rest)
    else some (bound - 1, [.outOfRange argument])
  read id numeral? argument

/-- A number that need not be whole. -/
inductive Real where
  | finite (negative : Bool) (value : Decimal.Binary)
  | infinite (negative : Bool)
  | notANumber (negative : Bool)
  deriving DecidableEq, Repr

/-- The kind of numbers that `printf` computes with. -/
def format : Decimal.BinaryFormat := .extended

/-- Digits around a point, at least one: the number they denote without the point, how many of
them follow the point, and what follows them all. -/
def pointed? (base : Nat) (cs : List Char) : Option (Nat × Nat × List Char) :=
  let whole := cs.takeWhile (Text.isDigit base)
  let rest := cs.dropWhile (Text.isDigit base)
  let (places, rest) :=
    match rest with
    | '.' :: more => (more.takeWhile (Text.isDigit base), more.dropWhile (Text.isDigit base))
    | rest => ([], rest)
  if whole.isEmpty && places.isEmpty then none
  else some (valueOf base (whole ++ places), places.length, rest)

/-- An exponent after its letter, if there is one, and what follows it. -/
def exponent (letter : Char) (cs : List Char) : Int × List Char :=
  let (negative, digits) := splitSign (cs.drop 1)
  if cs.head?.any (·.toLower == letter) && digits.head?.any Char.isDigit then
    (withSign negative (valueOf 10 (digits.takeWhile Char.isDigit)), digits.dropWhile Char.isDigit)
  else (0, cs)

/-- The number nearest to `digits * 2 ^ exponent`; none beyond the largest number. -/
def ofBinary? (digits : Nat) (exponent : Int) : Option Decimal.Binary :=
  let order := (Nat.log2 digits : Int) + exponent
  if digits == 0 || order < format.leastExponent - 2 then some format.zero
  else if order > format.greatestExponent + format.bits then none
  else format.nearest? (Decimal.scaleBy 2 (digits, 1) exponent)

/-- Whether a numeral has the prefix of base sixteen. -/
def isOfBaseSixteen : List Char → Bool
  | '0' :: mark :: rest => mark.toLower == 'x' && (pointed? 16 rest).isSome
  | _ => false

/-- Whether a number that is nearest to another is so small that it lost digits of it, given the
other one as a fraction. -/
def underflows (value : Decimal.Binary) (fraction : Nat × Nat) : Bool :=
  let (numerator, denominator) := value.fraction
  value.mantissa < format.mantissaBound / 2
    && numerator * fraction.2 != fraction.1 * denominator

/-- A finite number that was read, or a complaint that it is too large or too small; there is no
nearest number if it is too large. -/
def finiteReading (argument : String) (negative : Bool) (value? : Option Decimal.Binary)
    (lostDigits : Decimal.Binary → Bool) (rest : List Char) : Reading Real :=
  match value? with
  | none => (.infinite negative, [.outOfRange argument])
  | some value =>
    (.finite negative value,
      if lostDigits value then [.outOfRange argument] else leftOver argument rest)

/-- A finite numeral after its sign. -/
def finite? (argument : String) (negative : Bool) (cs : List Char) : Option (Reading Real) := do
  if isOfBaseSixteen cs then
    let (digits, places, rest) ← pointed? 16 (cs.drop 2)
    let (power, rest) := exponent 'p' rest
    let power := power - 4 * places
    let lostDigits (value : Decimal.Binary) : Bool :=
      digits != 0 && (value.mantissa == 0 || underflows value (Decimal.scaleBy 2 (digits, 1) power))
    return finiteReading argument negative (ofBinary? digits power) lostDigits rest
  else
    let (digits, places, rest) ← pointed? 10 cs
    let (power, rest) := exponent 'e' rest
    let power := power - places
    let lostDigits (value : Decimal.Binary) : Bool :=
      digits != 0 && (value.mantissa == 0 || underflows value (Decimal.fractionOf digits power))
    return finiteReading argument negative (format.ofDecimal? digits power) lostDigits rest

/-- What follows the word for something that is not a number: letters, digits and underscores
between parentheses belong to it. -/
def skipPayload (cs : List Char) : List Char :=
  match cs with
  | '(' :: more =>
    match more.dropWhile fun c => c.isAlphanum || c == '_' with
    | ')' :: rest => rest
    | _ => cs
  | _ => cs

/-- Whether a text begins with a word, in small or capital letters. -/
def beginsWith (word : String) (cs : List Char) : Bool :=
  (cs.take word.length).map Char.toLower == word.toList

/-- An argument as a number that need not be whole. -/
def real (argument : String) : Reading Real :=
  let numeral? (cs : List Char) : Option (Reading Real) :=
    let (negative, cs) := splitSign (cs.dropWhile isBlank)
    if beginsWith "infinity" cs then
      some (.infinite negative, leftOver argument (cs.drop 8))
    else if beginsWith "inf" cs then some (.infinite negative, leftOver argument (cs.drop 3))
    else if beginsWith "nan" cs then
      some (.notANumber negative, leftOver argument (skipPayload (cs.drop 3)))
    else finite? argument negative cs
  let ofCharacter (n : Nat) : Real :=
    .finite false ((format.nearest? (n, 1)).getD format.zero)
  read ofCharacter numeral? argument

end Numeral

end ClassBridge.StandardTools
