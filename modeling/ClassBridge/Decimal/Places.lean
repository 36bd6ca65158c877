import ClassBridge.Decimal.Binary

/-!
# Decimals of a given length

A fraction is rounded to a number of places after the point, or to a number of places after its
first digit.  A tie goes to the even digit.
-/

namespace ClassBridge.Decimal

/-- The digits of a fraction with so many places after the point. -/
def toPlaces (fraction : Nat × Nat) (places : Nat) : Nat :=
  let (numerator, denominator) := scaleBy 10 fraction places
  roundDiv numerator denominator

/-- The power of ten of the first digit of a positive fraction. -/
def leadingExponent (fraction : Nat × Nat) : Int :=
  let guess := (decimalWidth fraction.1 : Int) - (decimalWidth fraction.2 : Int)
  let (numerator, denominator) := scaleBy 10 fraction (-guess)
  if denominator ≤ numerator then guess else guess - 1

/-- The digits of a fraction with so many places after the first digit, and the power of ten of the
first digit. -/
def toScientific (fraction : Nat × Nat) (places : Nat) : Nat × Int :=
  if fraction.1 == 0 then (0, 0)
  else
    let exponent := leadingExponent fraction
    let (numerator, denominator) := scaleBy 10 fraction (places - exponent)
    let digits := roundDiv numerator denominator
    if digits == Nat.pow 10 (places + 1) then (Nat.pow 10 places, exponent + 1)
    else (digits, exponent)

end ClassBridge.Decimal
