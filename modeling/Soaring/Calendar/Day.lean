/-!
The proleptic Gregorian calendar as a numbering of days. Years are counted from March on, so that
the leap day ends a year and the months before it have a fixed rhythm of 153 days in five months.
-/
namespace Soaring.Calendar

/-- A year, month and day of the calendar, whose year may lie before the first or after any fixed
limit. -/
structure Day where
  year : Int
  month : Nat
  day : Nat
  deriving DecidableEq

def isLeapYear (year : Int) : Bool :=
  year % 4 = 0 && (year % 100 ≠ 0 || year % 400 = 0)

/-- The length of a month; a number that names no month has no days. -/
def daysInMonth (year : Int) (month : Nat) : Nat :=
  match month with
  | 1 | 3 | 5 | 7 | 8 | 10 | 12 => 31
  | 4 | 6 | 9 | 11 => 30
  | 2 => if isLeapYear year then 29 else 28
  | _ => 0

def Day.isReal (d : Day) : Bool :=
  1 ≤ d.day && d.day ≤ daysInMonth d.year d.month

def monthsSinceMarch (month : Nat) : Nat := (month + 9) % 12

/-- The days in the given number of months from the first of March on. -/
def daysSinceMarch (months : Nat) : Nat := (153 * months + 2) / 5

/-- The number of a day, the first of March of the year zero being day zero. -/
def Day.number (d : Day) : Int :=
  let year := if d.month ≤ 2 then d.year - 1 else d.year
  365 * year + year / 4 - year / 100 + year / 400 +
    (daysSinceMarch (monthsSinceMarch d.month) + d.day : Nat) - 1

/-- The days of the calendar's cycle of 400 years. -/
def cycleDays : Int := 146097

def Day.ofNumber (number : Int) : Day :=
  let inCycle := (number % cycleDays).toNat
  let yearOfCycle := (inCycle - inCycle / 1460 + inCycle / 36524 - inCycle / 146096) / 365
  let inYear := inCycle - (365 * yearOfCycle + yearOfCycle / 4 - yearOfCycle / 100)
  let months := (5 * inYear + 2) / 153
  let month := if months < 10 then months + 3 else months - 9
  let year : Int := yearOfCycle + number / cycleDays * 400
  { year := if month ≤ 2 then year + 1 else year
    month := month
    day := inYear - daysSinceMarch months + 1 }

end Soaring.Calendar
