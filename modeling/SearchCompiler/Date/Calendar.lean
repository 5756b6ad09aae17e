import SearchCompiler.Text

/-!
The proleptic Gregorian calendar: days by year, month and day of the month, and by their distance
from 1970-01-01. Years run from March, so that a leap day is the last day of its year.
-/

namespace SearchCompiler

structure CalendarDay where
  year : Int
  month : Nat
  day : Nat
  deriving DecidableEq

namespace CalendarDay

def isLeapYear (year : Int) : Bool :=
  year % 4 == 0 && (year % 100 != 0 || year % 400 == 0)

def monthLength (year : Int) (month : Nat) : Nat :=
  if month = 2 then (if isLeapYear year then 29 else 28)
  else if month = 4 ∨ month = 6 ∨ month = 9 ∨ month = 11 then 30
  else 31

def firstYear : Int := -262143

def lastYear : Int := 262142

def isValid (d : CalendarDay) : Bool :=
  firstYear ≤ d.year && d.year ≤ lastYear && 1 ≤ d.month && d.month ≤ 12 && 1 ≤ d.day &&
    d.day ≤ monthLength d.year d.month

/-- Days of a March-based year in front of the month that starts `m` months after March. -/
def daysBeforeMonth (m : Int) : Int := (153 * m + 2) / 5

def daysBeforeYear (y : Int) : Int := 365 * y + y / 4 - y / 100

def epochShift : Int := 719468

def number (d : CalendarDay) : Int :=
  let year := if d.month ≤ 2 then d.year - 1 else d.year
  let month : Int := ((d.month + 9) % 12 : Nat)
  let ofYear := daysBeforeMonth month + d.day - 1
  year / 400 * 146097 + daysBeforeYear (year % 400) + ofYear - epochShift

def ofNumber (n : Int) : CalendarDay :=
  let z := n + epochShift
  let ofCycle := z % 146097
  let year := (ofCycle - ofCycle / 1460 + ofCycle / 36524 - ofCycle / 146096) / 365
  let ofYear := ofCycle - daysBeforeYear year
  let month := (5 * ofYear + 2) / 153
  let day := ofYear - daysBeforeMonth month + 1
  let civilMonth := if month < 10 then month + 3 else month - 9
  let civilYear := year + z / 146097 * 400
  ⟨if civilMonth ≤ 2 then civilYear + 1 else civilYear, civilMonth.toNat, day.toNat⟩

def writeYear (year : Int) : String :=
  if 0 ≤ year ∧ year ≤ 9999 then Text.padded 4 year.toNat
  else (if year < 0 then "-" else "+") ++ Text.padded 4 year.natAbs

def write (d : CalendarDay) : String :=
  writeYear d.year ++ "-" ++ Text.padded 2 d.month ++ "-" ++ Text.padded 2 d.day

end CalendarDay

end SearchCompiler
