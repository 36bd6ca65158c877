import ClassBridge.Decimal.Binary

/-!
# Shortest decimals

The shortest decimal of a double is the one with the fewest digits among those that round to the
double, and of two such decimals the nearer one, or the larger one if both are equally near.  It
is written positionally, never with an exponent, and always with a point.
-/

namespace ClassBridge.Decimal

/-- A decimal `digits * 10 ^ exponent`. -/
structure Numeral where
  digits : Nat
  exponent : Int
  deriving DecidableEq, Repr

/-- Whether a decimal rounds to the double. -/
def readsBack (x : Binary) (d : Numeral) : Bool :=
  BinaryFormat.double.ofDecimal? d.digits d.exponent == some x

/-- The distance between a decimal and a fraction, as the numerator over a denominator that
depends on the exponent and the fraction only. -/
def distance (d : Numeral) (fraction : Nat × Nat) : Nat :=
  let (numerator, denominator) := fractionOf d.digits d.exponent
  let a := numerator * fraction.2
  let b := fraction.1 * denominator
  (a - b) + (b - a)

/-- The decimal of a given exponent that reads back as the double and is nearest to it, looked
for among the two neighbours of the double at that exponent. -/
def atExponent? (x : Binary) (exponent : Int) : Option Numeral :=
  let fraction := x.fraction
  let (numerator, denominator) := fractionOf 1 exponent
  let below := (fraction.1 * denominator) / (fraction.2 * numerator)
  let low : Numeral := ⟨below, exponent⟩
  let high : Numeral := ⟨below + 1, exponent⟩
  match readsBack x low, readsBack x high with
  | true, true =>
    if distance low fraction < distance high fraction then some low else some high
  | true, false => some low
  | false, true => some high
  | false, false => none

/-- The first exponent, going down from a start, at which a decimal reads back. -/
def searchDown (x : Binary) : (steps : Nat) → (exponent : Int) → Option Numeral
  | 0, _ => none
  | steps + 1, exponent =>
    match atExponent? x exponent with
    | some d => some d
    | none => searchDown x steps (exponent - 1)

/-- A power of ten above a positive double. -/
def decimalOrder (x : Binary) : Int :=
  let (numerator, denominator) := x.fraction
  (decimalWidth numerator : Int) - (decimalWidth denominator : Int) + 1

/-- The shortest decimal of a double. -/
def shortest (x : Binary) : Numeral :=
  if x.mantissa == 0 then ⟨0, 0⟩
  else (searchDown x 24 (decimalOrder x)).getD ⟨0, 0⟩

/-- The digits of a number, in base ten. -/
def digitsOf (n : Nat) : List Char := Nat.toDigits 10 n

/-- A decimal in positional notation, with a point and at least one digit on each side of it. -/
def Numeral.positional (d : Numeral) : String :=
  match d.exponent with
  | .ofNat e => String.ofList (digitsOf (d.digits * Nat.pow 10 e)) ++ ".0"
  | .negSucc e =>
    let places := e + 1
    let digits := digitsOf d.digits
    let padded := List.replicate (places + 1 - digits.length) '0' ++ digits
    let whole := padded.length - places
    String.ofList (padded.take whole) ++ "." ++ String.ofList (padded.drop whole)

end ClassBridge.Decimal
