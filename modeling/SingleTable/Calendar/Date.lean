import SingleTable.Number.Whole

/-!
# Calendar dates

Dates of the Gregorian calendar extended to all years, with astronomical year
numbers.  A date and its distance in days from 1970-01-01 determine each other.
-/

namespace SingleTable

namespace Calendar

/-- The earliest year of a date. -/
def minYear : Int := -262143

/-- The latest year of a date. -/
def maxYear : Int := 262142

/-- Every fourth year is leap, except centuries that 400 does not divide. -/
def isLeap (year : Int) : Bool :=
  year % 4 == 0 && (year % 100 != 0 || year % 400 == 0)

/-- Number of days in a month. -/
def monthLength (year : Int) (month : Nat) : Nat :=
  if month = 2 then (if isLeap year then 29 else 28)
  else if month = 4 ∨ month = 6 ∨ month = 9 ∨ month = 11 then 30
  else 31

/-- Number of days from the start of year zero to the start of a year. -/
def daysBeforeYear (year : Int) : Int :=
  365 * year + (year + 3) / 4 - (year + 99) / 100 + (year + 399) / 400

/-- Number of days in a year before a month begins. -/
def daysBeforeMonth (year : Int) : Nat → Nat
  | 0 => 0
  | 1 => 0
  | month + 2 => daysBeforeMonth year (month + 1) + monthLength year (month + 1)

/-- Number of days from the start of year zero to 1970-01-01. -/
def daysBeforeEpoch : Int := 719528

/-- The year that holds a day counted from the start of year zero.

The average year has 146097 / 400 days, and the quotient misses the year by one
at most. -/
def yearOfDay (day : Int) : Int :=
  let guess := 400 * day / 146097
  if day < daysBeforeYear guess then guess - 1
  else if daysBeforeYear (guess + 1) ≤ day then guess + 1
  else guess

/-- The month and day of month of a day counted from the start of the first of
the given months. -/
def monthOfDay (year : Int) : List Nat → Nat → Nat × Nat
  | [], day => (12, day + 1)
  | month :: later, day =>
    if day < monthLength year month then (month, day + 1)
    else monthOfDay year later (day - monthLength year month)

/-- The months of a year. -/
def months : List Nat := [1, 2, 3, 4, 5, 6, 7, 8, 9, 10, 11, 12]

/-- Year, month and day of month of a day counted from 1970-01-01. -/
def civilOfDay (day : Int) : Int × Nat × Nat :=
  let sinceZero := day + daysBeforeEpoch
  let year := yearOfDay sinceZero
  (year, monthOfDay year months (sinceZero - daysBeforeYear year).toNat)

/-- The number of days from 1970-01-01 to a year, month and day of month. -/
def dayOfCivil (year : Int) (month day : Nat) : Int :=
  daysBeforeYear year + (daysBeforeMonth year month + (day - 1) : Nat) - daysBeforeEpoch

/-- Year text: four digits from 0000 to 9999, else a sign and at least four digits. -/
def yearText (year : Int) : List Char :=
  if 0 ≤ year ∧ year ≤ 9999 then Number.paddedDigits 4 year.toNat
  else (if year < 0 then '-' else '+') :: Number.paddedDigits 4 year.natAbs

/-- Date text: year, month and day with hyphens between them. -/
def civilText (year : Int) (month day : Nat) : List Char :=
  yearText year ++ '-' :: Number.paddedDigits 2 month ++ '-' :: Number.paddedDigits 2 day

end Calendar

/-- A date of the calendar. -/
structure Date where
  year : Int
  month : Nat
  day : Nat
  year_range : Calendar.minYear ≤ year ∧ year ≤ Calendar.maxYear
  month_range : 1 ≤ month ∧ month ≤ 12
  day_range : 1 ≤ day ∧ day ≤ Calendar.monthLength year month
deriving DecidableEq

namespace Date

/-- The date with the given year, month and day, when there is one. -/
def of? (year : Int) (month day : Nat) : Option Date :=
  if year_range : Calendar.minYear ≤ year ∧ year ≤ Calendar.maxYear then
    if month_range : 1 ≤ month ∧ month ≤ 12 then
      if day_range : 1 ≤ day ∧ day ≤ Calendar.monthLength year month then
        some { year, month, day, year_range, month_range, day_range }
      else none
    else none
  else none

/-- Number of days from 1970-01-01. -/
def dayNumber (date : Date) : Int :=
  Calendar.dayOfCivil date.year date.month date.day

/-- The date as text. -/
def text (date : Date) : String :=
  String.ofList (Calendar.civilText date.year date.month date.day)

theorem of?_fields (date : Date) : of? date.year date.month date.day = some date := by
  simp [of?, date.year_range, date.month_range, date.day_range]

end Date

end SingleTable
