import ComponentPages.Number.Binary64
import ComponentPages.Text.Basic

namespace ComponentPages

/-!
# Decimal texts of numbers

The shortest decimal text of a number is the one with the fewest digits that lies in the interval
of reals which round to that number; of two with as few digits the nearer is taken, and at a tie the
larger. It is always written in positional notation. A number is also written with a fixed number
of places.
-/

/-- A decimal number: `digits` times ten to the `exponent`. -/
structure Decimal where
  digits : Nat
  exponent : Int
  deriving Repr, DecidableEq

namespace Decimal

/-- Ten to the exponent if it is positive, else one. -/
def raise (exponent : Int) : Nat :=
  Nat.pow 10 exponent.toNat

/-- Digits over ten to the number of places, without zeros in the last places. -/
def dropZeros : (places : Nat) → Nat → Decimal
  | 0, digits => ⟨digits, 0⟩
  | places + 1, digits =>
      if digits % 10 = 0 then dropZeros places (digits / 10) else ⟨digits, -(places + 1 : Nat)⟩

/-- The same number without zeros in the last places. -/
def reduced (decimal : Decimal) : Decimal :=
  if decimal.exponent < 0 then
    dropZeros (-decimal.exponent).toNat decimal.digits
  else
    decimal

/-- A positive quotient's decimal exponent: that of its first digit. -/
def leadingExponent (numerator denominator : Nat) : Int :=
  let guess : Int := (Text.ofNat numerator).length - (Text.ofNat denominator).length
  if denominator * raise guess ≤ numerator * raise (-guess) then guess else guess - 1

/-- The interval of reals that round to a number, in quarters of multiples of 2⁻¹⁰⁷⁴. -/
structure Interval where
  low : Nat
  value : Nat
  high : Nat
  /-- Whether the ends belong to it. -/
  closed : Bool
  deriving Repr, DecidableEq

namespace Interval

/-- The interval of reals that round to the magnitude of a finite number. -/
def ofNumber (number : Binary64) : Interval :=
  let unit := Nat.pow 2 number.unitExponent
  let value := 4 * number.scaled
  let below := if number.fractionBits = 0 && number.exponentBits > 1 then unit else 2 * unit
  {
    low := value - below
    value := value
    high := value + 2 * unit
    closed := number.significand % 2 = 0
  }

/-- One in quarters of multiples of 2⁻¹⁰⁷⁴. -/
def one : Nat := 4 * Binary64.scale

/-- Whether a decimal number lies in the interval. -/
def contains (interval : Interval) (decimal : Decimal) : Bool :=
  let point := decimal.digits * raise decimal.exponent * one
  let low := interval.low * raise (-decimal.exponent)
  let high := interval.high * raise (-decimal.exponent)
  if interval.closed then low ≤ point && point ≤ high else low < point && point < high

/-- The distance between a decimal number and the number itself, on a common scale. -/
def distance (interval : Interval) (decimal : Decimal) : Nat :=
  let point := decimal.digits * raise decimal.exponent * one
  let value := interval.value * raise (-decimal.exponent)
  (point - value) + (value - point)

/-- The decimal number of a given exponent that lies in the interval and nearest to its number. -/
def nearestAt? (interval : Interval) (exponent : Int) : Option Decimal :=
  let below : Decimal :=
    ⟨interval.value * raise (-exponent) / (one * raise exponent), exponent⟩
  let above : Decimal := ⟨below.digits + 1, exponent⟩
  let nearer :=
    if interval.distance above ≤ interval.distance below then [above, below] else [below, above]
  nearer.find? interval.contains

end Interval

/-- The shortest decimal number that stands for the magnitude of a finite number. -/
def shortest (number : Binary64) : Decimal :=
  let interval := Interval.ofNumber number
  let leading := leadingExponent interval.value Interval.one
  let found := (List.range 17).findSome? fun (places : Nat) =>
    interval.nearestAt? (leading - places)
  (found.getD ⟨0, 0⟩).reduced

/-! ## Texts -/

/-- Digits with a point in front of the last `places` of them. -/
def withPoint (digits : Text) (places : Nat) : Text :=
  let padded := List.replicate (places + 1 - digits.length) '0' ++ digits
  if places = 0 then
    padded
  else
    padded.take (padded.length - places) ++ '.' :: padded.drop (padded.length - places)

/-- A decimal number in positional notation. -/
def toText (decimal : Decimal) : Text :=
  withPoint (Text.ofNat (decimal.digits * raise decimal.exponent)) (-decimal.exponent).toNat

/-- The sign of a number that is written with one. -/
def sign (number : Binary64) : Text :=
  if number.isNegative then ['-'] else []

/-- A finite number with a fixed number of places, a tie going to the even digit. -/
def fixed (places : Nat) (number : Binary64) : Text :=
  let rounded := Binary64.roundQuotient (number.scaled * Nat.pow 10 places) Binary64.scale
  sign number ++ withPoint (Text.ofNat rounded) places

def ofNumber (number : Binary64) : Text :=
  if number.isNaN then
    "NaN".toList
  else if !number.isFinite then
    sign number ++ "inf".toList
  else
    sign number ++ (shortest number).toText

end Decimal

end ComponentPages
