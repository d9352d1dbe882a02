/-! Moments in UTC, to the nanosecond. -/
namespace CommandBridge

/-- A day, counted from 1970-01-01, and a time in it. A leap second is its predecessor with more
than `10 ^ 9` nanoseconds. -/
structure Moment where
  day : Int
  second : Fin 86400
  nano : Fin 2000000000
  deriving DecidableEq, Repr

namespace Moment

def isLeapYear (y : Int) : Bool := y % 4 == 0 && (y % 100 != 0 || y % 400 == 0)

def daysInMonth (y : Int) (m : Nat) : Nat :=
  if m = 2 then (if isLeapYear y then 29 else 28)
  else if m = 4 || m = 6 || m = 9 || m = 11 then 30
  else 31

/-- The day of a date. Years are taken from March to February, so that a leap day comes last. -/
def dayOfDate (y : Int) (m d : Nat) : Int :=
  let y := if m ≤ 2 then y - 1 else y
  let yearOfEra := y % 400
  let monthFromMarch : Int := ((m + 9) % 12 : Nat)
  let dayOfYear := (153 * monthFromMarch + 2) / 5 + d - 1
  y / 400 * 146097 + (yearOfEra * 365 + yearOfEra / 4 - yearOfEra / 100 + dayOfYear) - 719468

/-- Year, month and day. -/
def dateOfDay (day : Int) : Int × Nat × Nat :=
  let n := day + 719468
  let dayOfEra := n % 146097
  let yearOfEra :=
    (dayOfEra - dayOfEra / 1460 + dayOfEra / 36524 - dayOfEra / 146096) / 365
  let dayOfYear := dayOfEra - (365 * yearOfEra + yearOfEra / 4 - yearOfEra / 100)
  let monthFromMarch := (5 * dayOfYear + 2) / 153
  let d := dayOfYear - (153 * monthFromMarch + 2) / 5 + 1
  let m := if monthFromMarch < 10 then monthFromMarch + 3 else monthFromMarch - 9
  let y := yearOfEra + n / 146097 * 400
  (if m ≤ 2 then y + 1 else y, m.toNat, d.toNat)

def firstDay : Int := dayOfDate (-262143) 1 1

def lastDay : Int := dayOfDate 262142 12 31

end Moment

end CommandBridge
