import TimeGate.Schedule.Range
import TimeGate.Schedule.Refusal
import TimeGate.Text.Words

/-! Reading schedule texts. A field is a list of pieces between commas; a piece is a bound or two
bounds with a dash. A field with a piece `*` admits anything and its other pieces go unread. Pieces
are read from left to right and the first defect is reported. -/

set_option autoImplicit false

namespace TimeGate

open TimeGate.Decimal TimeGate.Text

namespace FieldSpec

def readBound (field : Option String) (part pair : List Char) (side : Side) (bound : List Char) :
    Except ReadError Int :=
  if isNumeral bound then
    if bound.length ≤ digitLimit then .ok (value bound) else .error .numeralTooLong
  else .error (.refused (.boundText field (.ofList part) (.ofList pair) side (.ofList bound)))

/-- One bound, or two with a dash between them. A single bound is the range of that value. -/
def readPair (field : Option String) (part pair : List Char) : Except ReadError Range :=
  match pieces '-' pair with
  | [only] =>
    match readBound field part pair .start only with
    | .error e => .error e
    | .ok bound => .ok ⟨bound, bound⟩
  | [start, stop] =>
    match readBound field part pair .start start with
    | .error e => .error e
    | .ok first =>
      match readBound field part pair .stop stop with
      | .error e => .error e
      | .ok last => .ok ⟨first, last⟩
  | _ => .error (.refused (.pairShape field (.ofList part) (.ofList pair)))

/-- A range with both bounds in the domain. The start is looked at before the end. -/
def checkWithin (domain : Domain) (part : List Char) (range : Range) : Except ReadError Range :=
  let outside (value : Int) := value < domain.low || domain.high < value
  let blame (value : Int) : ReadError :=
    .refused (.outsideDomain domain.name (.ofList part) domain.low domain.high value)
  if outside range.first then .error (blame range.first)
  else if outside range.last then .error (blame range.last)
  else .ok range

/-- One piece, checked against the domain if reading is strict and a domain is given. -/
def readPiece (domain : Option Domain) (strict : Bool) (part piece : List Char) :
    Except ReadError Range :=
  match readPair (domain.map Domain.name) part piece with
  | .error e => .error e
  | .ok range =>
    match strict, domain with
    | true, some d => checkWithin d part range
    | _, _ => .ok range

def readPieces (domain : Option Domain) (strict : Bool) (part : List Char) :
    List (List Char) → Except ReadError (List Range)
  | [] => .ok []
  | piece :: rest =>
    match readPiece domain strict part piece with
    | .error e => .error e
    | .ok range =>
      match readPieces domain strict part rest with
      | .error e => .error e
      | .ok ranges => .ok (range :: ranges)

def readChars (domain : Option Domain) (strict : Bool) (part : List Char) :
    Except ReadError FieldSpec :=
  let all := pieces ',' part
  if all.contains ['*'] then .ok .any
  else match readPieces domain strict part all with
    | .error e => .error e
    | .ok [] => .ok .any
    | .ok (first :: others) => .ok (.union ⟨first, others⟩)

/-- Reads one field of a schedule, or a part that stands in no field. -/
def read (domain : Option Domain) (strict : Bool) (part : String) : Except ReadError FieldSpec :=
  readChars domain strict part.toList

end FieldSpec

namespace Schedule

def readField (strict : Bool) (field : Field) (part : List Char) : Except ReadError FieldSpec :=
  FieldSpec.readChars (some field.domain) strict part

def readWords (strict : Bool) (minute hour dayOfMonth month dayOfWeek : List Char) :
    Except ReadError Schedule := do
  let minute ← readField strict .minute minute
  let hour ← readField strict .hour hour
  let dayOfMonth ← readField strict .dayOfMonth dayOfMonth
  let month ← readField strict .month month
  let dayOfWeek ← readField strict .dayOfWeek dayOfWeek
  return ⟨minute, hour, dayOfMonth, month, dayOfWeek⟩

/-- Reads a schedule. The number of words is looked at before any word is. -/
def read (strict : Bool) (text : String) : Except ReadError Schedule :=
  match words text.toList with
  | [minute, hour, dayOfMonth, month, dayOfWeek] =>
    readWords strict minute hour dayOfMonth month dayOfWeek
  | found => .error (.refused (.fieldCount text found.length))

/-- Reads what a caller hands over; anything but a text is refused. -/
def readValue (strict : Bool) : Value → Except ReadError Schedule
  | .text s => read strict s
  | given => .error (.refused (.notText given))

end Schedule

end TimeGate
