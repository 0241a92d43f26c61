/-
The calendar.

* `isLeap`, `monthLengths`, `yearLength`: the lengths of months and years.
* `ofDayOfYear`: the month and the day of a day that is counted from the first of January; days
  outside the year lie in the years next to it.
* `ofWeek?`: the date of a day that is given by a year, a week and a day of the week.
-/

namespace Driftwatch.Calendar

/-- A day. -/
structure Date where
  year : Nat
  month : Nat
  day : Nat
  deriving DecidableEq

/-- The year has a leap day. -/
def isLeap (year : Nat) : Bool :=
  year % 4 == 0 && (year % 100 != 0 || year % 400 == 0)

/-- The numbers of days of the months. -/
def monthLengths (year : Nat) : List Nat :=
  [31, if isLeap year then 29 else 28, 31, 30, 31, 30, 31, 31, 30, 31, 30, 31]

/-- The number of days of a year. -/
def yearLength (year : Nat) : Nat :=
  if isLeap year then 366 else 365

/-- A month has so many days. -/
def monthLength (year month : Nat) : Nat :=
  ((monthLengths year)[month - 1]?).getD 0

/-- The month, counted from the given one, and the day of the month of a day that is counted
from zero through months of the given lengths. -/
def ofDayOfMonths (month : Nat) (day : Nat) : (lengths : List Nat) → Nat × Nat
  | [] => (month, day + 1)
  | length :: rest =>
    if day < length then (month, day + 1) else ofDayOfMonths (month + 1) (day - length) rest

/-- The date of a day that is counted from the first of January, which is day zero. -/
def ofDayOfYear (year : Nat) (day : Int) : Date :=
  let (year, day) :=
    if day < 0 then (year - 1, (day + yearLength (year - 1)).toNat)
    else if (yearLength year : Int) ≤ day then (year + 1, (day - yearLength year).toNat)
    else (year, day.toNat)
  let (month, day) := ofDayOfMonths 1 day (monthLengths year)
  { year, month, day }

/-! ### Weeks -/

/-- The day of the week of the first of January; Monday is zero. -/
def firstWeekday (year : Nat) : Nat :=
  let y := year - 1
  (365 * y + y / 4 - y / 100 + y / 400) % 7

/-- The Monday of the first week of a year, as a day of that year.  The first week is the one
with the first Thursday. -/
def firstMonday (year : Nat) : Int :=
  let w := firstWeekday year
  if w ≤ 3 then -(w : Int) else 7 - w

/-- The number of weeks of a year. -/
def weekCount (year : Nat) : Nat :=
  let w := firstWeekday year
  if w = 3 ∨ (w = 2 ∧ isLeap year = true) then 53 else 52

/-- The date of a day that is given by its year, its week and its day of the week; Monday is
one. -/
def ofWeek? (year week weekday : Nat) : Option Date :=
  if 1 ≤ year ∧ 1 ≤ week ∧ week ≤ weekCount year ∧ 1 ≤ weekday ∧ weekday ≤ 7 then
    some (ofDayOfYear year (firstMonday year + (7 * (week - 1) + (weekday - 1) : Nat)))
  else none

end Driftwatch.Calendar
