import ComponentPages.Number.Binary64
import ComponentPages.Toml.Value

namespace ComponentPages

/-!
# TOML scalars

A value that is one word: a truth value, a number, or a moment in time.
-/

namespace TomlValue

/-! ## Numbers -/

/-- Whether a text is groups of digits with single underscores between them. -/
def areGroups (isDigit : Char → Bool) (written : Text) : Bool :=
  (Text.pieces (· == '_') written).all fun group => !group.isEmpty && group.all isDigit

/-- A text without its sign, if it has one. -/
def withoutSign (written : Text) : Text :=
  match written with
  | '+' :: rest => rest
  | '-' :: rest => rest
  | _ => written

/-- Whether a text is a whole number without sign: groups of digits that start with no zero. -/
def isWhole (written : Text) : Bool :=
  areGroups Char.isDigit written && (written.head? != some '0' || written.length == 1)

/-- The value of digits of a base, with underscores between them. -/
def valueOf (base : Nat) (written : Text) : Nat :=
  (written.filterMap Text.hexadecimalDigit?).foldl (fun value digit => base * value + digit) 0

/-- The first number that is too large for 128 bits: 2¹²⁸. -/
def integerLimit : Nat := 0x100000000000000000000000000000000

/-- Whether an integer fits in 128 bits, with or without a sign. -/
def fits (written : Text) : Bool :=
  if written.head? = some '-' then
    valueOf 10 written ≤ integerLimit / 2
  else
    valueOf 10 written < integerLimit

def isInteger (written : Text) : Bool :=
  match written with
  | '0' :: 'x' :: digits =>
      areGroups (fun digit => (Text.hexadecimalDigit? digit).isSome) digits &&
        valueOf 16 digits < integerLimit
  | '0' :: 'o' :: digits =>
      areGroups (fun digit => '0' ≤ digit && digit ≤ '7') digits &&
        valueOf 8 digits < integerLimit
  | '0' :: 'b' :: digits =>
      areGroups (fun digit => digit == '0' || digit == '1') digits &&
        valueOf 2 digits < integerLimit
  | _ => isWhole (withoutSign written) && fits written

/-- The integer that digits behind a sign give. -/
def signedValue (written : Text) : Int :=
  if written.head? = some '-' then -(valueOf 10 written : Int) else valueOf 10 written

/--
Whether digits times a power of ten are not too large for a binary64 number. The exponent does not
count beyond the point where the number is certainly too large or certainly less than one.
-/
def isInRange (digits : Text) (exponent : Int) : Bool :=
  (Binary64.ofQuotient false
    (valueOf 10 digits * Nat.pow 10 (min exponent.toNat 400))
    (Nat.pow 10 (min (-exponent).toNat digits.length))).isFinite

/-- Whether a text is a number with a fraction or an exponent that is not too large. -/
def isFloat (written : Text) : Bool :=
  let unsigned := withoutSign written
  let mantissa := unsigned.takeWhile fun character => character != 'e' && character != 'E'
  let exponent := unsigned.drop mantissa.length
  let whole := mantissa.takeWhile (· != '.')
  let fraction := mantissa.drop whole.length
  let places := (fraction.filter Char.isDigit).length
  unsigned == "inf".toList || unsigned == "nan".toList ||
    (isWhole whole &&
      (fraction.isEmpty || areGroups Char.isDigit (fraction.drop 1)) &&
      (exponent.isEmpty || areGroups Char.isDigit (withoutSign (exponent.drop 1))) &&
      !(fraction.isEmpty && exponent.isEmpty) &&
      isInRange (whole ++ fraction) (signedValue (exponent.drop 1) - places))

/-! ## Moments -/

/-- The value of a text that is a given number of digits. -/
def digits? (count : Nat) (written : Text) : Option Nat :=
  if written.length = count && written.all Char.isDigit then
    some (Text.digitsValue written)
  else
    none

def isLeapYear (year : Nat) : Bool :=
  year % 4 = 0 && (year % 100 ≠ 0 || year % 400 = 0)

def daysOf (year month : Nat) : Nat :=
  if month = 2 then
    if isLeapYear year then 29 else 28
  else if [4, 6, 9, 11].contains month then
    30
  else
    31

def isDate (written : Text) : Bool :=
  match Text.pieces (· == '-') written with
  | [years, months, days] =>
      match digits? 4 years, digits? 2 months, digits? 2 days with
      | some year, some month, some day =>
          1 ≤ month && month ≤ 12 && 1 ≤ day && day ≤ daysOf year month
      | _, _, _ => false
  | _ => false

/-- Whether a text is a number of two digits up to a limit. -/
def isUpTo (limit : Nat) (written : Text) : Bool :=
  match digits? 2 written with
  | some value => value ≤ limit
  | none => false

/-- Whether a text is the seconds of a time, with or without a fraction. -/
def isSeconds (written : Text) : Bool :=
  match Text.pieces (· == '.') written with
  | [whole] => isUpTo 60 whole
  | [whole, fraction] => isUpTo 60 whole && !fraction.isEmpty && fraction.all Char.isDigit
  | _ => false

/-- Whether a text is a time of day, with or without seconds. -/
def isTime (written : Text) : Bool :=
  match Text.pieces (· == ':') written with
  | [hours, minutes] => isUpTo 23 hours && isUpTo 59 minutes
  | [hours, minutes, seconds] => isUpTo 23 hours && isUpTo 59 minutes && isSeconds seconds
  | _ => false

/-- Whether a text is a distance from universal time, or none at all. -/
def isOffset (written : Text) : Bool :=
  match written with
  | [] => true
  | [zone] => zone == 'Z' || zone == 'z'
  | sign :: rest =>
      (sign == '+' || sign == '-') &&
        match Text.pieces (· == ':') rest with
        | [hours, minutes] => isUpTo 23 hours && isUpTo 59 minutes
        | _ => false

/-- Whether a text is a moment: a date, a time, or both with or without an offset. -/
def isMoment (written : Text) : Bool :=
  let date := written.take 10
  let clock := (written.drop 11).takeWhile fun character =>
    character.isDigit || character == ':' || character == '.'
  isDate written || isTime written ||
    (isDate date && ['T', 't', ' '].any (written[10]? == some ·) && isTime clock &&
      isOffset (written.drop (11 + clock.length)))

/-! ## Words -/

def ofWord? (written : Text) : Option TomlValue :=
  if written = "true".toList then
    some (.boolean true)
  else if written = "false".toList then
    some (.boolean false)
  else if isInteger written || isFloat written then
    some (.number written)
  else if isMoment written then
    some (.moment written)
  else
    none

end TomlValue

end ComponentPages
