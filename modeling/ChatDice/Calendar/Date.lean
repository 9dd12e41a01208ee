/-! # Dates

    Days are counted from 1 January 1970 and written as year, month and day of
    the Gregorian calendar, extended to all years before and after.  Year 0 is
    the year before year 1.

    `yearStart` counts the days before a year; `yearOf` finds the year of a day
    by an estimate that is off by at most one.
-/

namespace ChatDice

/-! ## Years -/

/-- Whether a year has 366 days. -/
def isLeapYear (y : Int) : Bool :=
  y % 4 == 0 && (y % 100 != 0 || y % 400 == 0)

/-- The first day of a year, counted from 1 January 1970.  Each of the three
quotients counts the multiples of its divisor from year 0 to the year before. -/
def yearStart (y : Int) : Int :=
  365 * y + (y + 3) / 4 - (y + 99) / 100 + (y + 399) / 400 - 719528

/-- The year that a day lies in. -/
def yearOf (day : Int) : Int :=
  let y := 400 * (day + 719528) / 146097
  if day < yearStart y then y - 1
  else if yearStart (y + 1) ≤ day then y + 1
  else y

/-! ## Months -/

/-- The number of days of each month. -/
def monthLengths (leap : Bool) : List Nat :=
  [31, if leap then 29 else 28, 31, 30, 31, 30, 31, 31, 30, 31, 30, 31]

/-- The number of days of some months together. -/
def daysIn : List Nat → Nat
  | []        => 0
  | len :: ls => len + daysIn ls

/-- Splits a number of days after the first of month `month` over the months of
the given lengths; the result is a month and a day, counted from 1. -/
def splitMonths (month : Nat) : List Nat → Nat → Nat × Nat
  | [],        days => (month, days + 1)
  | len :: ls, days =>
    if days < len then (month, days + 1) else splitMonths (month + 1) ls (days - len)

/-! ## Dates -/

/-- A date; months and days count from 1. -/
structure Date where
  year  : Int
  month : Nat
  day   : Nat
  deriving DecidableEq

namespace Date

/-- Whether the month and the day exist. -/
def exists? (d : Date) : Bool :=
  1 ≤ d.month && 1 ≤ d.day &&
    (((monthLengths (isLeapYear d.year))[d.month - 1]?).any (d.day ≤ ·))

/-- The day's number. -/
def toDay (d : Date) : Int :=
  yearStart d.year +
    (daysIn ((monthLengths (isLeapYear d.year)).take (d.month - 1)) + (d.day - 1) : Nat)

/-- The date of a day. -/
def ofDay (day : Int) : Date :=
  let y := yearOf day
  let (month, d) := splitMonths 1 (monthLengths (isLeapYear y)) (day - yearStart y).toNat
  ⟨y, month, d⟩

end Date

end ChatDice
