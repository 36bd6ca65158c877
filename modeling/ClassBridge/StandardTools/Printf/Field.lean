import ClassBridge.Decimal.Places
import ClassBridge.StandardTools.Printf.Argument

/-!
# Numbers as `printf` writes them

**Fields.**  What is written has a lead, which is a sign or the prefix of a base, and a body.  A
field brings both to a width, with blanks on one side or with zeros between them.

**Digits.**  Whole numbers have as many digits as the precision asks for at least.  Other numbers
are written with a fixed number of places, with an exponent, with whichever of the two is shorter,
or in base sixteen; they are rounded from their exact value, a tie going to the even digit.
-/

namespace ClassBridge.StandardTools

/-- How a field is laid out. -/
structure FieldFlags where
  leftAligned : Bool := false
  /-- A plus sign before what is not negative. -/
  plus : Bool := false
  /-- A blank before what is not negative. -/
  blank : Bool := false
  /-- The prefix of the base, or a point without places. -/
  alternate : Bool := false
  zeroPadded : Bool := false
  deriving DecidableEq, Repr

namespace FieldFlags

/-- The sign of a number. -/
def sign (flags : FieldFlags) (negative : Bool) : List Char :=
  if negative then ['-'] else if flags.plus then ['+'] else if flags.blank then [' '] else []

/-- A lead and a body brought to a width; zeros are allowed only for some. -/
def field (flags : FieldFlags) (width : Nat) (mayHaveZeros : Bool) (lead body : List Char) :
    List Char :=
  let room := width - (lead.length + body.length)
  if flags.leftAligned then lead ++ body ++ List.replicate room ' '
  else if flags.zeroPadded && mayHaveZeros then lead ++ List.replicate room '0' ++ body
  else List.replicate room ' ' ++ lead ++ body

/-- The digits of a number, zeros before them up to a width. -/
def digits (base width n : Nat) : List Char :=
  let digits := Nat.toDigits base n
  List.replicate (width - digits.length) '0' ++ digits

/-- The digits of a whole number: at least as many as the precision says, and none for zero if it
says so. -/
def wholeDigits (base : Nat) (precision : Option Nat) (n : Nat) : List Char :=
  if n = 0 && precision = some 0 then [] else digits base (precision.getD 1) n

/-- A signed whole number. -/
def signed (flags : FieldFlags) (width : Nat) (precision : Option Nat) (n : Int) : List Char :=
  flags.field width precision.isNone (flags.sign (n < 0)) (wholeDigits 10 precision n.natAbs)

/-- An unsigned whole number in base eight, ten or sixteen. -/
def unsigned (flags : FieldFlags) (width : Nat) (precision : Option Nat) (base n : Nat) :
    List Char :=
  let body := wholeDigits base precision n
  let body :=
    if flags.alternate && base = 8 && body.head? != some '0' then '0' :: body else body
  let lead := if flags.alternate && base = 16 && n != 0 then ['0', 'x'] else []
  flags.field width precision.isNone lead body

/-- How a number that need not be whole is written. -/
inductive RealStyle where
  | fixed
  | scientific
  | general
  | hexadecimal
  deriving DecidableEq, Repr

/-- Digits with a point before the last ones; a point that nothing follows is written only on
demand. -/
def withPoint (showsPoint : Bool) (places : Nat) (cs : List Char) : List Char :=
  let whole := cs.length - places
  cs.take whole ++ (if places = 0 && !showsPoint then [] else ['.']) ++ cs.drop whole

/-- An exponent, with a sign and a least number of digits. -/
def exponentText (letter : Char) (least : Nat) (exponent : Int) : List Char :=
  letter :: (if exponent < 0 then '-' else '+') :: digits 10 least exponent.natAbs

/-- A number with a fixed number of places. -/
def fixedText (showsPoint : Bool) (places : Nat) (value : Decimal.Binary) : List Char :=
  withPoint showsPoint places (digits 10 (places + 1) (Decimal.toPlaces value.fraction places))

/-- A number with one digit before the point and an exponent. -/
def scientificText (showsPoint : Bool) (places : Nat) (value : Decimal.Binary) : List Char :=
  let (n, exponent) := Decimal.toScientific value.fraction places
  withPoint showsPoint places (digits 10 (places + 1) n) ++ exponentText 'e' 2 exponent

/-- Digits without the zeros at their end. -/
def withoutFinalZeros (cs : List Char) : List Char := (cs.reverse.dropWhile (· == '0')).reverse

/-- A number with so many digits in all, without zeros at the end of its places unless the point
is asked for.  It has an exponent if that would be below -4, or not below the number of digits. -/
def generalText (showsPoint : Bool) (significant : Nat) (value : Decimal.Binary) : List Char :=
  let (n, exponent) := Decimal.toScientific value.fraction (significant - 1)
  let all := digits 10 significant n
  if -4 ≤ exponent && exponent < significant then
    let places := ((significant : Int) - 1 - exponent).toNat
    let all := List.replicate (places + 1 - all.length) '0' ++ all
    let whole := all.take (all.length - places)
    let fraction := all.drop (all.length - places)
    let fraction := if showsPoint then fraction else withoutFinalZeros fraction
    withPoint showsPoint fraction.length (whole ++ fraction)
  else
    let fraction := if showsPoint then all.drop 1 else withoutFinalZeros (all.drop 1)
    withPoint showsPoint fraction.length (all.take 1 ++ fraction) ++ exponentText 'e' 2 exponent

/-- How many digits of base sixteen follow the first one in a mantissa. -/
def hexPlaces : Nat := Numeral.format.bits / 4 - 1

/-- A number in base sixteen after its prefix, with an exponent of two. -/
def hexText (showsPoint : Bool) (precision : Option Nat) (value : Decimal.Binary) : List Char :=
  let exponent := if value.mantissa = 0 then 0 else value.exponent + 4 * hexPlaces
  let places := precision.getD hexPlaces
  let n :=
    if hexPlaces ≤ places then value.mantissa * Nat.pow 16 (places - hexPlaces)
    else Decimal.roundDiv value.mantissa (Nat.pow 16 (hexPlaces - places))
  let (n, exponent) :=
    if n = Nat.pow 16 (places + 1) then (n / 16, exponent + 4) else (n, exponent)
  let all := digits 16 (places + 1) n
  let fraction := if precision.isNone then withoutFinalZeros (all.drop 1) else all.drop 1
  withPoint showsPoint fraction.length (all.take 1 ++ fraction) ++ exponentText 'p' 1 exponent

/-- The body of a finite number that need not be whole. -/
def realBody (style : RealStyle) (showsPoint : Bool) (precision : Option Nat)
    (value : Decimal.Binary) : List Char :=
  match style with
  | .fixed => fixedText showsPoint (precision.getD 6) value
  | .scientific => scientificText showsPoint (precision.getD 6) value
  | .general => generalText showsPoint (max 1 (precision.getD 6)) value
  | .hexadecimal => hexText showsPoint precision value

/-- A number that need not be whole. -/
def real (flags : FieldFlags) (width : Nat) (precision : Option Nat) (style : RealStyle)
    (number : Numeral.Real) : List Char :=
  match number with
  | .finite negative value =>
    let base := if style = .hexadecimal then ['0', 'x'] else []
    flags.field width true (flags.sign negative ++ base)
      (realBody style flags.alternate precision value)
  | .infinite negative => flags.field width false (flags.sign negative) "inf".toList
  | .notANumber negative => flags.field width false (flags.sign negative) "nan".toList

end FieldFlags

end ClassBridge.StandardTools
