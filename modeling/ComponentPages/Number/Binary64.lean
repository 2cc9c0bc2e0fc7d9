namespace ComponentPages

/-!
# Binary64 numbers

A number is kept as the sixty-four bits of its binary form. The magnitude of a finite number is a
whole multiple of 2⁻¹⁰⁷⁴, so that all arithmetic is done on natural numbers and a result is
rounded once, to the nearest number and at a tie to the even one.
-/

/-- A number in binary64 form. -/
structure Binary64 where
  bits : UInt64
  deriving Repr, DecidableEq

namespace Binary64

/-! ## Parts -/

/-- The bit of the sign: 2⁶³. -/
def signBit : Nat := 0x8000000000000000

def exponentUnit : Nat := 0x10000000000000

/-- Whether the sign bit is set. -/
def isNegative (number : Binary64) : Bool :=
  signBit ≤ number.bits.toNat

/-- The bits without the sign. -/
def magnitudeBits (number : Binary64) : Nat :=
  number.bits.toNat % signBit

def exponentBits (number : Binary64) : Nat :=
  number.magnitudeBits / exponentUnit

def fractionBits (number : Binary64) : Nat :=
  number.magnitudeBits % exponentUnit

/-- Whether the number is neither infinite nor missing. -/
def isFinite (number : Binary64) : Bool :=
  number.exponentBits < 2047

/-- Whether the bits stand for no number. -/
def isNaN (number : Binary64) : Bool :=
  number.exponentBits == 2047 && number.fractionBits != 0

def significand (number : Binary64) : Nat :=
  if number.exponentBits = 0 then
    number.fractionBits
  else
    exponentUnit + number.fractionBits

/-- The exponent of the unit in the last place, in multiples of 2⁻¹⁰⁷⁴. -/
def unitExponent (number : Binary64) : Nat :=
  number.exponentBits - 1

/-- The number of multiples of 2⁻¹⁰⁷⁴ in the magnitude of a finite number. -/
def scaled (number : Binary64) : Nat :=
  number.significand * Nat.pow 2 number.unitExponent

/-- The scale of `scaled`. -/
def scale : Nat := Nat.pow 2 1074

/-- The magnitude bits of infinity. -/
def infinityBits : Nat := 2047 * exponentUnit

/-- A number from its sign and the bits of its magnitude. -/
def ofMagnitude (negative : Bool) (magnitude : Nat) : Binary64 :=
  ⟨UInt64.ofNat ((if negative then signBit else 0) + magnitude)⟩

/-! ## Rounding -/

/-- The quotient rounded to the nearest whole number, at a tie to the even one. -/
def roundQuotient (numerator denominator : Nat) : Nat :=
  let quotient := numerator / denominator
  let twice := 2 * (numerator % denominator)
  if twice > denominator || (twice == denominator && quotient % 2 == 1) then
    quotient + 1
  else
    quotient

/--
The magnitude bits of the number nearest to a quotient of multiples of 2⁻¹⁰⁷⁴; infinity if it is
too large.
-/
def roundScaled (numerator denominator : Nat) : Nat :=
  let whole := numerator / denominator
  let unit := if whole < 2 * exponentUnit then 0 else whole.log2 - 52
  let magnitude := unit * exponentUnit + roundQuotient numerator (denominator * Nat.pow 2 unit)
  min magnitude infinityBits

/-- The number nearest to a quotient of natural numbers. -/
def ofQuotient (negative : Bool) (numerator denominator : Nat) : Binary64 :=
  ofMagnitude negative (roundScaled (numerator * scale) denominator)

/-- The number nearest to a natural number. -/
def ofNat (number : Nat) : Binary64 :=
  ofQuotient false number 1

def ofInt (number : Int) : Binary64 :=
  ofQuotient (number < 0) number.natAbs 1

def zero : Binary64 := ⟨0⟩

/-- The product of a finite number that is not negative and a natural number, rounded. -/
def timesNat (number : Binary64) (factor : Nat) : Binary64 :=
  ofMagnitude false (roundScaled (number.scaled * factor) 1)

/-! ## Closeness -/

/-- Equality as numbers: the two zeros are equal, and what is no number equals nothing. -/
def equals (number other : Binary64) : Bool :=
  !number.isNaN && !other.isNaN &&
    (number == other || (number.magnitudeBits == 0 && other.magnitudeBits == 0))

/-- The signed number of multiples of 2⁻¹⁰⁷⁴ in a finite number. -/
def signedScaled (number : Binary64) : Int :=
  if number.isNegative then -(number.scaled : Int) else number.scaled

/-- The magnitude bits of 2⁻⁵². -/
def epsilonBits : Nat := 0x3CB0000000000000

/-- Whether the rounded difference of two finite numbers is at most 2⁻⁵². -/
def differByEpsilon (number other : Binary64) : Bool :=
  number.isFinite && other.isFinite &&
    roundScaled (number.signedScaled - other.signedScaled).natAbs 1 ≤ epsilonBits

/-- Whether the bits of two numbers, taken as numbers modulo 2⁶⁴, differ by at most four. -/
def differByUnits (number other : Binary64) : Bool :=
  number.bits - other.bits ≤ 4 || other.bits - number.bits ≤ 4

/-- Whether two numbers count as the same. -/
def isClose (number other : Binary64) : Bool :=
  number.equals other || number.differByEpsilon other || number.differByUnits other

/-- The fraction that a finite number has beyond its whole part. -/
def fractionalPart (number : Binary64) : Binary64 :=
  ofMagnitude number.isNegative (roundScaled (number.scaled % scale) 1)

end Binary64

end ComponentPages
