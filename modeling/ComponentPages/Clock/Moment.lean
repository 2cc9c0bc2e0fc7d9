import ComponentPages.Text.Basic

namespace ComponentPages

/-!
# Moments

The text of a moment in universal time: date, time, a fraction of the second if there is one, and
the offset. Years are counted from March, so that a leap day is the last day of its year.
-/

/-- A moment since the start of 1970. -/
structure Moment where
  seconds : Nat
  nanoseconds : Nat
  deriving Repr, DecidableEq

/-- A day of the calendar. -/
structure Date where
  year : Nat
  month : Nat
  day : Nat
  deriving Repr, DecidableEq

namespace Date

/-- The days from the first of March of the year zero to the start of 1970. -/
def epoch : Nat := 719468

/-- The days of four hundred years. -/
def cycle : Nat := 146097

/-- The date of a day since the start of 1970. -/
def ofDays (days : Nat) : Date :=
  let day := (days + epoch) % cycle
  let year := (day - day / 1460 + day / 36524 - day / 146096) / 365
  let dayOfYear := day - (365 * year + year / 4 - year / 100)
  let month := (5 * dayOfYear + 2) / 153
  {
    year := year + 400 * ((days + epoch) / cycle) + (if month < 10 then 0 else 1)
    month := if month < 10 then month + 3 else month - 9
    day := dayOfYear - (153 * month + 2) / 5 + 1
  }

end Date

namespace Moment

/-- A number with zeros in front up to a width. -/
def padded (width number : Nat) : Text :=
  let digits := Text.ofNat number
  List.replicate (width - digits.length) '0' ++ digits

/-- The fraction of a second in as few groups of three digits as it takes. -/
def fraction (nanoseconds : Nat) : Text :=
  if nanoseconds = 0 then
    []
  else if nanoseconds % 1000000 = 0 then
    '.' :: padded 3 (nanoseconds / 1000000)
  else if nanoseconds % 1000 = 0 then
    '.' :: padded 6 (nanoseconds / 1000)
  else
    '.' :: padded 9 nanoseconds

def toText (moment : Moment) : Text :=
  let date := Date.ofDays (moment.seconds / 86400)
  let second := moment.seconds % 86400
  padded 4 date.year ++ '-' :: padded 2 date.month ++ '-' :: padded 2 date.day ++
    'T' :: padded 2 (second / 3600) ++ ':' :: padded 2 (second / 60 % 60) ++
    ':' :: padded 2 (second % 60) ++ fraction moment.nanoseconds ++ "+00:00".toList

end Moment

end ComponentPages
