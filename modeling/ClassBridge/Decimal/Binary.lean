/-!
# Binary floating point numbers

A finite number without its sign is `mantissa * 2 ^ exponent`.  A `BinaryFormat` says how many bits
a mantissa has at most, and between which bounds the exponent stays.

**Rounding.**  `nearest?` rounds a fraction to the nearest number of a format, a tie going to the
even mantissa, in exact arithmetic; what rounds beyond the largest number has none.  `ofDecimal?`
does so for a decimal without writing out powers of ten that cannot matter.
-/

namespace ClassBridge.Decimal

/-- A finite number without its sign. -/
structure Binary where
  mantissa : Nat
  exponent : Int
  deriving DecidableEq, Repr

/-- The bounds of a kind of numbers. -/
structure BinaryFormat where
  /-- How many bits a mantissa has at most. -/
  bits : Nat
  leastExponent : Int
  greatestExponent : Int
  deriving DecidableEq, Repr

/-- Double precision. -/
def BinaryFormat.double : BinaryFormat := ⟨53, -1074, 971⟩

/-- Extended precision of eighty bits. -/
def BinaryFormat.extended : BinaryFormat := ⟨64, -16445, 16320⟩

/-- The quotient rounded to the nearest natural number, a tie going to the even one. -/
def roundDiv (numerator denominator : Nat) : Nat :=
  let quotient := numerator / denominator
  let twice := 2 * (numerator % denominator)
  if twice < denominator then quotient
  else if denominator < twice then quotient + 1
  else if quotient % 2 == 0 then quotient
  else quotient + 1

/-- The fraction multiplied by `base ^ exponent`. -/
def scaleBy (base : Nat) (fraction : Nat × Nat) (exponent : Int) : Nat × Nat :=
  match exponent with
  | .ofNat e => (fraction.1 * Nat.pow base e, fraction.2)
  | .negSucc e => (fraction.1, fraction.2 * Nat.pow base (e + 1))

/-- The value of a number as a numerator and a denominator. -/
def Binary.fraction (x : Binary) : Nat × Nat := scaleBy 2 (x.mantissa, 1) x.exponent

/-- The decimal `digits * 10 ^ exponent` as a numerator and a denominator. -/
def fractionOf (digits : Nat) (exponent : Int) : Nat × Nat := scaleBy 10 (digits, 1) exponent

/-- The largest `n` with `2 ^ n` at most the fraction, which is positive, give or take one. -/
def binaryOrder (fraction : Nat × Nat) : Int :=
  (Nat.log2 fraction.1 : Int) - (Nat.log2 fraction.2 : Int)

/-- The number of decimal digits of a number. -/
def decimalWidth (n : Nat) : Nat := (Nat.toDigits 10 n).length

namespace BinaryFormat

/-- The bound of a mantissa. -/
def mantissaBound (format : BinaryFormat) : Nat := Nat.pow 2 format.bits

/-- The number zero. -/
def zero (format : BinaryFormat) : Binary := ⟨0, format.leastExponent⟩

/-- The exponent at which the mantissa of a positive fraction uses all bits, or the least exponent
of all if that is larger. -/
def exponentFor (format : BinaryFormat) (fraction : Nat × Nat) : Int :=
  let guess := binaryOrder fraction - format.bits
  let (numerator, denominator) := scaleBy 2 fraction (-guess)
  let exponent := if numerator / denominator < format.mantissaBound then guess else guess + 1
  max exponent format.leastExponent

/-- The number nearest to a fraction; none beyond the largest number. -/
def nearest? (format : BinaryFormat) (fraction : Nat × Nat) : Option Binary :=
  if fraction.1 == 0 then some format.zero
  else
    let power := format.exponentFor fraction
    let (numerator, denominator) := scaleBy 2 fraction (-power)
    let mantissa := roundDiv numerator denominator
    let result : Binary :=
      if mantissa == format.mantissaBound then ⟨mantissa / 2, power + 1⟩ else ⟨mantissa, power⟩
    if result.exponent > format.greatestExponent then none else some result

/-- The number nearest to `digits * 10 ^ exponent`; none beyond the largest number. -/
def ofDecimal? (format : BinaryFormat) (digits : Nat) (exponent : Int) : Option Binary :=
  if digits == 0 then some format.zero
  else
    let order := (decimalWidth digits : Int) + exponent
    if 3 * order > format.greatestExponent + format.bits + 9 then none
    else if 3 * order < format.leastExponent - 9 then some format.zero
    else format.nearest? (fractionOf digits exponent)

end BinaryFormat

end ClassBridge.Decimal
