import TimeGate.Decimal.Numeral
import TimeGate.Instant.DateTime
import TimeGate.Value
import TimeGate.Yaml.Cursor

/-! Dates, and dates with a time, as scalars write them. -/

set_option autoImplicit false

namespace TimeGate.Yaml

open TimeGate.Decimal

/-- A time of day as written, and its offset in minutes. -/
structure StampTime where
  hour : Nat
  minute : Nat
  second : Nat
  micro : Nat
  offset : Option Int
  deriving DecidableEq, Repr

structure Stamp where
  year : Nat
  month : Nat
  day : Nat
  time : Option StampTime
  deriving DecidableEq, Repr

namespace Stamp

def readNumber (least most : Nat) (text : List Char) : Option (Nat × List Char) :=
  let digits := (text.take most).takeWhile Char.isDigit
  if digits.length < least then none else some (value digits, text.drop digits.length)

def expect (c : Char) (text : List Char) : Option (List Char) :=
  match text with
  | found :: rest => if found = c then some rest else none
  | [] => none

/-- The offset at the end of a date and time; `Z` is none. -/
def readOffset (text : List Char) : Option (Option Int) :=
  match text.dropWhile fun c => c == ' ' || c == '\t' with
  | [] => if text.isEmpty then some none else none
  | ['Z'] => some (some 0)
  | sign :: rest =>
    let signed (minutes : Nat) : Int := if sign == '-' then -(minutes : Int) else (minutes : Int)
    if sign == '+' || sign == '-' then do
      let (hours, rest) ← readNumber 1 2 rest
      match rest with
      | [] => return some (signed (hours * 60))
      | ':' :: rest =>
        let (minutes, rest) ← readNumber 2 2 rest
        if rest.isEmpty then return some (signed (hours * 60 + minutes)) else none
      | _ => none
    else none

/-- A fraction of a second in micros. Six digits count. -/
def fractionMicros (digits : List Char) : Nat :=
  let counted := digits.take 6
  value counted * Nat.pow 10 (6 - counted.length)

def readTime (text : List Char) : Option StampTime := do
  let (hour, rest) ← readNumber 1 2 text
  let rest ← expect ':' rest
  let (minute, rest) ← readNumber 2 2 rest
  let rest ← expect ':' rest
  let (second, rest) ← readNumber 2 2 rest
  let hasPoint := rest.head? = some '.'
  let fraction := if hasPoint then (rest.drop 1).takeWhile Char.isDigit else []
  let rest := if hasPoint then (rest.drop 1).dropWhile Char.isDigit else rest
  let offset ← readOffset rest
  return ⟨hour, minute, second, fractionMicros fraction, offset⟩

/-- The blanks or the letter between a date and a time. -/
def readMark (text : List Char) : Option (List Char) :=
  match text with
  | 'T' :: rest | 't' :: rest => some rest
  | ' ' :: _ | '\t' :: _ => some (text.dropWhile fun c => c == ' ' || c == '\t')
  | _ => none

/-- Reads the parts of a date. Month and day may have one digit. -/
def read (text : List Char) : Option Stamp := do
  let (year, rest) ← readNumber 4 4 text
  let rest ← expect '-' rest
  let (month, rest) ← readNumber 1 2 rest
  let rest ← expect '-' rest
  let (day, rest) ← readNumber 1 2 rest
  if rest.isEmpty then return ⟨year, month, day, none⟩
  else
    let time ← readTime (← readMark rest)
    return ⟨year, month, day, some time⟩

/-- Whether a text is taken for a date without being told. A date alone then has all its digits. -/
def isSpelled (text : List Char) : Bool :=
  match read text with
  | some stamp => stamp.time.isSome || text.length == 10
  | none => false

/-- The date or moment that is spelled. It must exist, and its offset must be less than a day. -/
def value? (stamp : Stamp) : Option Foreign := do
  let date ← Date.ofParts? stamp.year stamp.month stamp.day
  match stamp.time with
  | none => return .date date.dayNumber
  | some time =>
    let clock ← Clock.ofParts? time.hour time.minute time.second time.micro
    match time.offset with
    | none => return .moment (DateTime.instant ⟨date, clock, none⟩) false
    | some minutes =>
      let offset ← Offset.ofMicros? (minutes * 60 * microsPerSecond)
      return .moment (DateTime.instant ⟨date, clock, some offset⟩) true

end Stamp

end TimeGate.Yaml
