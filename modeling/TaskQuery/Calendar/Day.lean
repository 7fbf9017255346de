namespace TaskQuery

def isLeapYear (year : Nat) : Bool :=
  year % 4 == 0 && (year % 100 != 0 || year % 400 == 0)

/-- The days from the first of January of year 1 to the first of January of `year`. -/
def daysBeforeYear (year : Nat) : Nat :=
  365 * (year - 1) + (year - 1) / 4 - (year - 1) / 100 + (year - 1) / 400

def monthLengths (year : Nat) : List Nat :=
  [31, if isLeapYear year then 29 else 28, 31, 30, 31, 30, 31, 31, 30, 31, 30, 31]

/-- The length of a month, counted from one; zero if there is no such month. -/
def daysInMonth (year month : Nat) : Nat :=
  if month = 0 then 0 else ((monthLengths year)[month - 1]?).getD 0

/-- The days of a year before the first of a month, counted from one. -/
def daysBeforeMonth (year month : Nat) : Nat :=
  ((monthLengths year).take (month - 1)).foldl (· + ·) 0

/-- The first year that is out of range. -/
def yearBound : Nat := 10000

/-- The number of days in range. -/
def dayCount : Nat := 3652059

/-- A day of the years 1 to 9999 in the Gregorian calendar, by number; the first of January of year 1, a Monday, has
number zero. -/
structure Day where
  number : Nat
  inRange : number < dayCount
  deriving DecidableEq

/-- The days up to the end of a month, and so on through the lengths: the index of the month that holds the day,
and the day within it. -/
def splitMonths : (lengths : List Nat) → (month day : Nat) → Nat × Nat
  | [], month, day => (month, day)
  | length :: lengths, month, day =>
    if day < length then (month, day) else splitMonths lengths (month + 1) (day - length)

/-- The year that holds the day with a number. The average length of a year gives it up to one. -/
def yearOfDay (number : Nat) : Nat :=
  let guess := number * 400 / 146097 + 1
  if daysBeforeYear (guess + 1) ≤ number then guess + 1
  else if number < daysBeforeYear guess then guess - 1
  else guess

namespace Day

/-- The day with a number, if it is in range. -/
def ofNumber? (number : Int) : Option Day :=
  if h : number.toNat < dayCount then
    if 0 ≤ number then some ⟨number.toNat, h⟩ else none
  else none

def year (d : Day) : Nat :=
  yearOfDay d.number

/-- The month, counted from one, and the day of the month, counted from zero. -/
def monthAndDay (d : Day) : Nat × Nat :=
  splitMonths (monthLengths d.year) 1 (d.number - daysBeforeYear d.year)

/-- The month, from 1 to 12. -/
def month (d : Day) : Nat :=
  d.monthAndDay.1

/-- The day of the month, from 1 on. -/
def dayOfMonth (d : Day) : Nat :=
  d.monthAndDay.2 + 1

/-- The day of the week, Monday being zero. -/
def weekday (d : Day) : Nat :=
  d.number % 7

/-- The day that a year, a month and a day of the month name. -/
def ofCivil? (year month day : Nat) : Option Day :=
  if 1 ≤ year ∧ year < yearBound ∧ 1 ≤ month ∧ month ≤ 12 ∧ 1 ≤ day ∧ day ≤ daysInMonth year month then
    ofNumber? (daysBeforeYear year + daysBeforeMonth year month + (day - 1) : Nat)
  else none

/-- The number of the Monday that begins week one of a year: the week of its first Thursday. It may lie in the
year before, even before year 1. -/
def firstWeekMonday (year : Nat) : Int :=
  let first := daysBeforeYear year
  let weekday := first % 7
  if weekday ≤ 3 then (first : Int) - weekday else (first : Int) - weekday + 7

/-- Whether a year has a week 53: it begins on a Thursday, or on a Wednesday and is a leap year. -/
def hasWeek53 (year : Nat) : Bool :=
  let weekday := daysBeforeYear year % 7
  weekday == 3 || (weekday == 2 && isLeapYear year)

/-- The day that a year, a week and a day of the week name, all counted from one. -/
def ofWeek? (year week day : Nat) : Option Day :=
  if 1 ≤ year ∧ year < yearBound ∧ 1 ≤ week ∧ (week ≤ 52 ∨ (week = 53 ∧ hasWeek53 year = true)) ∧ 1 ≤ day ∧ day ≤ 7 then
    ofNumber? (firstWeekMonday year + (week - 1) * 7 + (day - 1))
  else none

end Day

example : (Day.ofCivil? 9999 12 31).map Day.number = some (dayCount - 1) := by decide

example : (Day.ofCivil? 2024 2 30) = none := by decide

end TaskQuery
