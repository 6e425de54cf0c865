import TimeGate.Decimal.Numeral
import TimeGate.Instant.DateTime
import TimeGate.Text.Words

/-! ISO 8601 moments as text. The reader takes calendar and week dates in the basic and the extended
form, any one character between date and time, and an offset; the writer gives the extended form. -/

set_option autoImplicit false

namespace TimeGate.Iso

open TimeGate.Decimal

/-- Reads exactly `count` digits from the front. -/
def takeDigits : Nat → List Char → Option (Nat × List Char)
  | count, text =>
    let front := text.take count
    if front.length = count && front.all Char.isDigit then some (value front, text.drop count)
    else none

def isDigitAt (text : List Char) (place : Nat) : Bool :=
  match text[place]? with
  | some c => c.isDigit
  | none => false

/-- How many characters belong to the date. Extended dates have eight or ten; basic week dates have
seven or eight, told apart by the run of digits after the week, of which time digits come in pairs. -/
def dateLength? (text : List Char) : Option Nat :=
  let length := text.length
  if length < 7 then none
  else if length = 7 then some 7
  else if text[4]? = some '-' then
    if text[5]? = some 'W' then
      if text[8]? = some '-' then
        if length = 9 then none
        else if isDigitAt text 10 then some 8
        else some 10
      else some 8
    else some 10
  else if text[4]? = some 'W' then
    let stop := 7 + ((text.drop 7).takeWhile Char.isDigit).length
    if stop < 9 then some stop
    else if stop % 2 = 0 then some 7
    else some 8
  else some 8

/-- The dash of the extended form, which a basic date must not have. -/
def skipDash (extended : Bool) (text : List Char) : Option (List Char) :=
  match extended, text with
  | false, _ => some text
  | true, '-' :: rest => some rest
  | true, _ => none

def readWeekDate (extended : Bool) (year : Nat) (text : List Char) : Option Date := do
  let (week, rest) ← takeDigits 2 text
  match rest with
  | [] => Date.ofWeek? year week 1
  | _ =>
    let rest ← skipDash extended rest
    let (day, rest) ← takeDigits 1 rest
    if rest.isEmpty then Date.ofWeek? year week day else none

def readDate (text : List Char) : Option Date := do
  let (year, rest) ← takeDigits 4 text
  let extended := rest.head? = some '-'
  let rest ← skipDash extended rest
  match rest with
  | 'W' :: rest => readWeekDate extended year rest
  | _ =>
    let (month, rest) ← takeDigits 2 rest
    let rest ← skipDash extended rest
    let (day, rest) ← takeDigits 2 rest
    if rest.isEmpty then Date.ofParts? year month day else none

/-- Hour, minute, second and microsecond as written, and whether a stray character was left over. -/
structure ClockText where
  hour : Nat
  minute : Nat
  second : Nat
  micro : Nat
  stray : Bool
  deriving DecidableEq, Repr

/-- A fraction of a second. Six digits count and further ones are skipped; after six, anything else counts
as stray, but before that it is an error. -/
def readFraction (hour minute second : Nat) (text : List Char) : Option ClockText :=
  let count := min 6 text.length
  match takeDigits count text with
  | some (digits, rest) =>
    if count = 0 then none
    else
      let left := rest.dropWhile Char.isDigit
      some ⟨hour, minute, second, digits * Nat.pow 10 (6 - count), !(left.isEmpty || left.head? = some '\x00')⟩
  | none => none

inductive Follow where
  | finished (stray : Bool)
  | component (rest : List Char)
  | fraction (rest : List Char)
  | refused
  deriving DecidableEq, Repr

/-- A lone last character of ASCII is stray, whichever it is, and any other is refused; a colon or, in
the basic form, nothing leads to the next component; a point or a comma leads to the fraction. -/
def follow (extended : Bool) (text : List Char) : Follow :=
  match text with
  | [] => .finished false
  | [c] => if c.toNat < 0x80 then .finished (c != '\x00') else .refused
  | c :: rest =>
    if extended && c == ':' then .component rest
    else if c == '.' || c == ',' then .fraction rest
    else if extended then .refused
    else .component text

/-- Reads one to three components and a fraction. The character after the hour decides the form:
a colon for the extended one. After the seconds another separator also leads to a fraction. -/
def readClock (text : List Char) : Option ClockText := do
  let (hour, rest) ← takeDigits 2 text
  let extended := rest.head? = some ':'
  match follow extended rest with
  | .refused => none
  | .finished stray => some ⟨hour, 0, 0, 0, stray⟩
  | .fraction rest => readFraction hour 0 0 rest
  | .component rest =>
    let (minute, rest) ← takeDigits 2 rest
    match follow extended rest with
    | .refused => none
    | .finished stray => some ⟨hour, minute, 0, 0, stray⟩
    | .fraction rest => readFraction hour minute 0 rest
    | .component rest =>
      let (second, rest) ← takeDigits 2 rest
      match follow extended rest with
      | .refused => none
      | .finished stray => some ⟨hour, minute, second, 0, stray⟩
      | .fraction rest => readFraction hour minute second rest
      | .component rest => readFraction hour minute second rest

def ClockText.clock? (text : ClockText) : Option Clock :=
  Clock.ofParts? text.hour text.minute text.second text.micro

/-- The offset that a clock text stands for; a fraction without whole seconds counts as none. -/
def ClockText.offset? (negative : Bool) (text : ClockText) : Option Offset :=
  let seconds : Int := text.hour * 3600 + text.minute * 60 + text.second
  let micros := if seconds = 0 then 0 else seconds * microsPerSecond + text.micro
  Offset.ofMicros? (if negative then -micros else micros)

def startsOffset (c : Char) : Bool := c == '+' || c == '-' || c == 'Z'

/-- A time of day and its offset, if one is written. Before an offset a stray character is let pass; at
the end of the text it is not. -/
def readTime (text : List Char) : Option (Clock × Option Offset) := do
  let clockText ← readClock (text.takeWhile fun c => !startsOffset c)
  let clock ← clockText.clock?
  match text.dropWhile fun c => !startsOffset c with
  | [] => if clockText.stray then none else some (clock, none)
  | 'Z' :: rest =>
    if rest.isEmpty || rest.head? = some '\x00' then some (clock, some Offset.utc) else none
  | sign :: rest =>
    let offsetText ← readClock rest
    let offset ← offsetText.offset? (sign == '-')
    if offsetText.stray then none else some (clock, some offset)

/-- A date, or a date and a time with any one character between them. -/
def read (text : List Char) : Option DateTime := do
  let length ← dateLength? text
  let date ← readDate (text.take length)
  match text.drop length with
  | [] => some ⟨date, Clock.midnight, none⟩
  | _ :: time =>
    let (clock, offset) ← readTime time
    some ⟨date, clock, offset⟩

/-- A final `Z` in either case stands for a zero offset. -/
def expandZulu (text : List Char) : List Char :=
  match text.getLast? with
  | some 'Z' | some 'z' => text.dropLast ++ "+00:00".toList
  | _ => text

def fractionChars (micro : Nat) : List Char :=
  if micro = 0 then [] else '.' :: padded 6 micro

/-- Sign, hours and minutes, then seconds and a fraction if there are any. -/
def offsetChars (offset : Offset) : List Char :=
  let size := offset.micros.natAbs
  let seconds := size / 1000000
  let micro := size % 1000000
  let sign := if offset.micros < 0 then '-' else '+'
  let tail := if seconds % 60 = 0 && micro = 0 then []
    else ':' :: padded 2 (seconds % 60) ++ fractionChars micro
  sign :: padded 2 (seconds / 3600) ++ ':' :: padded 2 (seconds / 60 % 60) ++ tail

def dateChars (date : Date) : List Char :=
  padded 4 date.year ++ '-' :: padded 2 date.month ++ '-' :: padded 2 date.day

def clockChars (clock : Clock) : List Char :=
  padded 2 clock.hour ++ ':' :: padded 2 clock.minute ++ ':' :: padded 2 clock.second ++
    fractionChars clock.micro

def chars (moment : DateTime) : List Char :=
  dateChars moment.date ++ 'T' :: clockChars moment.clock ++
    (match moment.offset with
      | none => []
      | some offset => offsetChars offset)

def text (moment : DateTime) : String := String.ofList (chars moment)

end TimeGate.Iso

namespace TimeGate

/-- Whether a check is made against the present or against a pinned moment. -/
inductive Mode where
  | live
  | fixed
  deriving DecidableEq, Repr

def Mode.name : Mode → String
  | .live => "live"
  | .fixed => "fixed"

/-- The moment a check is made against. -/
structure Occasion where
  current : DateTime
  mode : Mode
  deriving DecidableEq, Repr

namespace Occasion

def now (moment : DateTime) : Occasion := ⟨moment.aware, .live⟩

def pinned (moment : DateTime) : Occasion := ⟨moment.aware, .fixed⟩

/-- Pins the moment that a text names, blanks around it aside. -/
def read? (text : String) : Option Occasion :=
  (Iso.read (Iso.expandZulu (Text.trim text.toList))).map Occasion.pinned

def isFixed (occasion : Occasion) : Bool := occasion.mode == .fixed

end Occasion

end TimeGate
