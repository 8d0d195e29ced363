import ImportAtlas.Text.Numeral

/-!
# The calendar

Dates follow the Gregorian calendar, extended to all years.  Days are counted from the first of
January 1970, with earlier ones negative.

A period of 400 years has 146097 days.  Years are counted from March on, so that the leap day is the
last day of a year.
-/

namespace ImportAtlas

structure Date where
  year : Int
  /-- From 1 to 12. -/
  month : Nat
  /-- From 1 to 31. -/
  day : Nat
deriving DecidableEq

namespace Date

def ofDays (days : Int) : Date :=
  let shifted := days + 719468
  let period := shifted / 146097
  let dayOfPeriod := (shifted % 146097).toNat
  let yearOfPeriod :=
    (dayOfPeriod - dayOfPeriod / 1460 + dayOfPeriod / 36524 - dayOfPeriod / 146096) / 365
  let dayOfYear := dayOfPeriod - (365 * yearOfPeriod + yearOfPeriod / 4 - yearOfPeriod / 100)
  let monthFromMarch := (5 * dayOfYear + 2) / 153
  let day := dayOfYear - (153 * monthFromMarch + 2) / 5 + 1
  let month := if monthFromMarch < 10 then monthFromMarch + 3 else monthFromMarch - 9
  let year := period * 400 + yearOfPeriod + (if month ≤ 2 then 1 else 0)
  ⟨year, month, day⟩

def isLeapYear (year : Int) : Bool := year % 4 = 0 && (year % 100 ≠ 0 || year % 400 = 0)

def daysInMonth (year : Int) (month : Nat) : Nat :=
  match month with
  | 2 => if isLeapYear year then 29 else 28
  | 4 | 6 | 9 | 11 => 30
  | _ => 31

def dayOfYear (date : Date) : Nat :=
  let months := List.range (date.month - 1)
  months.foldl (fun days m => days + daysInMonth date.year (m + 1)) (date.day - 1)

/-- The day of the week of a day, from Sunday as 0 to Saturday as 6. -/
def weekdayOfDays (days : Int) : Nat := ((days + 4) % 7).toNat

end Date

end ImportAtlas
