/-! The proleptic Gregorian calendar. Days are numbered from 1, the first of January of year 1, a
Monday; the number of a date and the date of a number are given apart from each other. -/

set_option autoImplicit false

namespace TimeGate.Calendar

def isLeap (year : Nat) : Bool := year % 4 == 0 && (year % 100 != 0 || year % 400 == 0)

def daysInYear (year : Nat) : Nat := if isLeap year then 366 else 365

def daysInMonth (year month : Nat) : Nat :=
  match month with
  | 2 => if isLeap year then 29 else 28
  | 4 | 6 | 9 | 11 => 30
  | _ => 31

/-- The days of all years from 1 up to but excluding `year`. -/
def daysBeforeYear (year : Nat) : Nat :=
  let past := year - 1
  365 * past + past / 4 - past / 100 + past / 400

/-- The days of the months before `month`, January being 1. -/
def daysBeforeMonth (year : Nat) : Nat → Nat
  | 0 | 1 => 0
  | month + 2 => daysBeforeMonth year (month + 1) + daysInMonth year (month + 1)

def dayNumber (year month day : Nat) : Nat :=
  daysBeforeYear year + daysBeforeMonth year month + day

/-- The day number of the first of January 1970. -/
def epochDay : Nat := 719163

def lastYear : Nat := 9999

/-- The year that holds a day, with the zero-based day of that year: whole cycles of 400, 100, 4 years and
1 year are taken off in turn. -/
def yearOfDay (number : Nat) : Nat × Nat :=
  let day := number - 1
  let fours := day % 146097
  -- The last century of 400 years and the last year of four are a day longer, hence the two minima.
  let centuries := min 3 (fours / 36524)
  let inCentury := fours - centuries * 36524
  let inFour := inCentury % 1461
  let years := min 3 (inFour / 365)
  (400 * (day / 146097) + 100 * centuries + 4 * (inCentury / 1461) + years + 1, inFour - years * 365)

/-- Walks the months from `month` on while whole months can be taken off. -/
def monthOfDay (year : Nat) : Nat → Nat → Nat → Nat × Nat
  | 0, month, left => (month, left + 1)
  | steps + 1, month, left =>
    if left < daysInMonth year month then (month, left + 1)
    else monthOfDay year steps (month + 1) (left - daysInMonth year month)

/-- Year, month and day of a day number. -/
def civil (number : Nat) : Nat × Nat × Nat :=
  let place := yearOfDay number
  let date := monthOfDay place.1 11 1 place.2
  (place.1, date.1, date.2)

/-- Days from Sunday, which is 0, to Saturday, which is 6. -/
def weekday (number : Nat) : Nat := number % 7

/-- The day of the first week of a year on which the week starts, a Monday. The first week is the
one that holds the first Thursday. -/
def firstMonday (year : Nat) : Nat :=
  let first := dayNumber year 1 1
  let pastMonday := (first + 6) % 7
  if 3 < pastMonday then first - pastMonday + 7 else first - pastMonday

/-- A year has a week 53 if it starts on a Thursday, or is a leap year and starts on a Wednesday. -/
def hasWeek53 (year : Nat) : Bool :=
  let start := weekday (dayNumber year 1 1)
  start == 4 || (start == 3 && isLeap year)

end TimeGate.Calendar
