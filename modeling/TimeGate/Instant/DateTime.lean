import TimeGate.Calendar
import TimeGate.Schedule.Field

/-! Dates, clock times and offsets, each legal by construction, and the point on the time line that
they denote together. Points are counted in microseconds from the start of 1970 in UTC. -/

set_option autoImplicit false

namespace TimeGate

structure Date where
  year : Nat
  month : Nat
  day : Nat
  valid : 1 ≤ year ∧ year ≤ Calendar.lastYear ∧ 1 ≤ month ∧ month ≤ 12 ∧ 1 ≤ day ∧
    day ≤ Calendar.daysInMonth year month
  deriving DecidableEq, Repr

namespace Date

def ofParts? (year month day : Nat) : Option Date :=
  if h : 1 ≤ year ∧ year ≤ Calendar.lastYear ∧ 1 ≤ month ∧ month ≤ 12 ∧ 1 ≤ day ∧
      day ≤ Calendar.daysInMonth year month then
    some ⟨year, month, day, h⟩
  else none

def dayNumber (date : Date) : Nat := Calendar.dayNumber date.year date.month date.day

/-- A date by week. Weeks that the year does not have and days beyond Sunday are refused. -/
def ofWeek? (year week day : Nat) : Option Date :=
  if year = 0 || week = 0 || 53 < week || (week = 53 && !Calendar.hasWeek53 year) then none
  else if day = 0 || 7 < day then none
  else
    let date := Calendar.civil (Calendar.firstMonday year + (week - 1) * 7 + (day - 1))
    ofParts? date.1 date.2.1 date.2.2

end Date

structure Clock where
  hour : Nat
  minute : Nat
  second : Nat
  micro : Nat
  valid : hour < 24 ∧ minute < 60 ∧ second < 60 ∧ micro < 1000000
  deriving DecidableEq, Repr

namespace Clock

def ofParts? (hour minute second micro : Nat) : Option Clock :=
  if h : hour < 24 ∧ minute < 60 ∧ second < 60 ∧ micro < 1000000 then
    some ⟨hour, minute, second, micro, h⟩
  else none

def midnight : Clock := ⟨0, 0, 0, 0, by decide⟩

def seconds (clock : Clock) : Nat := clock.hour * 3600 + clock.minute * 60 + clock.second

end Clock

def microsPerSecond : Int := 1000000

def secondsPerDay : Int := 86400

/-- A fixed distance from UTC, in microseconds, of less than a day either way. -/
structure Offset where
  micros : Int
  valid : -86400000000 < micros ∧ micros < 86400000000
  deriving DecidableEq, Repr

namespace Offset

def ofMicros? (micros : Int) : Option Offset :=
  if h : -86400000000 < micros ∧ micros < 86400000000 then some ⟨micros, h⟩ else none

def utc : Offset := ⟨0, by decide⟩

end Offset

/-- A calendar date and clock time, with or without an offset. One without is taken for UTC. -/
structure DateTime where
  date : Date
  clock : Clock
  offset : Option Offset
  deriving DecidableEq, Repr

namespace DateTime

def isAware (moment : DateTime) : Bool := moment.offset.isSome

/-- Fixes the meaning of a moment without an offset. -/
def aware (moment : DateTime) : DateTime :=
  { moment with offset := some (moment.offset.getD Offset.utc) }

/-- The seconds that the calendar and clock show, counted as if they showed UTC. -/
def wallSeconds (moment : DateTime) : Int :=
  ((moment.date.dayNumber : Int) - Calendar.epochDay) * secondsPerDay + moment.clock.seconds

/-- The point on the time line, in microseconds. -/
def instant (moment : DateTime) : Int :=
  moment.wallSeconds * microsPerSecond + moment.clock.micro -
    (moment.offset.getD Offset.utc).micros

/-- The calendar numbers as they stand, whatever the offset. -/
def components (moment : DateTime) : Components :=
  ⟨moment.clock.minute, moment.clock.hour, moment.date.day, moment.date.month,
    Calendar.weekday moment.date.dayNumber⟩

end DateTime

/-- The seconds from the start of year 1 to the end of the last year, seen from 1970. -/
def inCalendar (seconds : Int) : Bool :=
  (1 - (Calendar.epochDay : Int)) * secondsPerDay ≤ seconds &&
    seconds < ((Calendar.dayNumber Calendar.lastYear 12 31 : Int) - Calendar.epochDay + 1) * secondsPerDay

/-- The moment in UTC at a point on the time line, unless that is outside the calendar. -/
def DateTime.utc? (micros : Int) : Option DateTime :=
  let seconds := micros / microsPerSecond
  let parts := Calendar.civil (seconds / secondsPerDay + Calendar.epochDay).toNat
  let left := (seconds % secondsPerDay).toNat
  match inCalendar seconds, Date.ofParts? parts.1 parts.2.1 parts.2.2,
    Clock.ofParts? (left / 3600) (left / 60 % 60) (left % 60) (micros % microsPerSecond).toNat with
  | true, some date, some clock => some ⟨date, clock, some Offset.utc⟩
  | _, _, _ => none

/-- The calendar numbers of a count of seconds from the start of 1970. -/
def Components.ofSeconds (seconds : Int) : Components :=
  let number := (seconds / secondsPerDay + Calendar.epochDay).toNat
  let date := Calendar.civil number
  ⟨seconds / 60 % 60, seconds / 3600 % 24, date.2.2, date.2.1, Calendar.weekday number⟩

end TimeGate
