import TimeGate.Calendar

/-! What a zone's clocks do. A zone has a list of recorded changes of its offset, an offset before
the first of them, and a yearly rule from the last of them on. -/

set_option autoImplicit false

namespace TimeGate

/-- A day of the year, the `week`-th `weekday` of a month or the last one if `week` is five, and a
second of that day by the clocks in use before it. Seconds may be negative. -/
structure YearlyTurn where
  month : Nat
  week : Nat
  weekday : Nat
  second : Int
  deriving DecidableEq, Repr

/-- What holds after the last recorded change: one offset for good, or two that alternate. -/
inductive ZoneRule where
  | steady (offset : Int)
  | seasonal (standard summer : Int) (start stop : YearlyTurn)
  deriving DecidableEq, Repr

/-- A recorded change: the second from which an offset holds, in UTC from the start of 1970. -/
structure Change where
  since : Int
  offset : Int
  deriving DecidableEq, Repr

structure Zone where
  name : String
  before : Int
  changes : List Change
  rule : ZoneRule
  deriving DecidableEq, Repr

namespace YearlyTurn

def day (turn : YearlyTurn) (year : Nat) : Nat :=
  let first := Calendar.weekday (Calendar.dayNumber year turn.month 1)
  let earliest := (turn.weekday + 7 - first) % 7 + 1
  let planned := earliest + 7 * (turn.week - 1)
  if Calendar.daysInMonth year turn.month < planned then planned - 7 else planned

/-- The turn in seconds by the clocks of its place, counted from the start of 1970. -/
def wallSecond (turn : YearlyTurn) (year : Nat) : Int :=
  ((Calendar.dayNumber year turn.month (turn.day year) : Int) - Calendar.epochDay) * 86400 + turn.second

end YearlyTurn

/-- The year in UTC of a count of seconds from the start of 1970. -/
def yearOfSecond (second : Int) : Nat :=
  (Calendar.yearOfDay (second / 86400 + Calendar.epochDay).toNat).1

/-- The offset in force. A rule whose summer starts late in the year has it run over new year. -/
def ZoneRule.offsetAt (rule : ZoneRule) (second : Int) : Int :=
  match rule with
  | .steady offset => offset
  | .seasonal standard summer start stop =>
    let year := yearOfSecond second
    let opens := start.wallSecond year - standard
    let closes := stop.wallSecond year - summer
    let isSummer :=
      if opens < closes then opens ≤ second && second < closes
      else !(closes ≤ second && second < opens)
    if isSummer then summer else standard

/-- The offset of the latest change not after `second`; `current` if there is none. -/
def latestOffset (current : Int) : List Change → Int → Int
  | [], _ => current
  | change :: rest, second =>
    if change.since ≤ second then latestOffset change.offset rest second else current

/-- The offset from UTC in force at a count of seconds from the start of 1970 in UTC. -/
def Zone.offsetAt (zone : Zone) (second : Int) : Int :=
  match zone.changes.getLast? with
  | none => zone.rule.offsetAt second
  | some last =>
    if last.since ≤ second then zone.rule.offsetAt second
    else latestOffset zone.before zone.changes second

end TimeGate
