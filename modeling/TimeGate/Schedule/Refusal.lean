import TimeGate.Schedule.Field
import TimeGate.Value

/-! Why a schedule text or a zone name is refused. Every cause carries the pieces of input it is
about; the wording is in one place and quotes whatever came from outside. -/

set_option autoImplicit false

namespace TimeGate

inductive Side where
  | start
  | stop
  deriving DecidableEq, Repr

def Side.name : Side → String
  | .start => "start"
  | .stop => "end"

inductive Refusal where
  /-- The schedule is not a text. -/
  | notText (given : Value)
  /-- The text does not hold five words. -/
  | fieldCount (text : String) (found : Nat)
  /-- A piece has three or more dash-separated segments. -/
  | pairShape (field : Option String) (part pair : String)
  /-- A bound is not a decimal numeral. -/
  | boundText (field : Option String) (part pair : String) (side : Side) (bound : String)
  /-- Strict reading: a bound is outside the legal values. -/
  | outsideDomain (field part : String) (low high value : Int)
  /-- The zone is not a text, or no provider knows it. -/
  | unknownZone (given : Value)
  deriving Repr

namespace Refusal

/-- The whole schedule text, where the cause lies in it and not in one of its parts. -/
def wholeText? : Refusal → Option String
  | .fieldCount text _ => some text
  | _ => none

/-- How many words a schedule text has to hold, where that is the cause. -/
def expected? : Refusal → Option Nat
  | .notText _ | .fieldCount .. => some Field.all.length
  | _ => none

/-- Names the field, if the part stands in one, and quotes the part. -/
def place (field : Option String) (part : String) : List Char :=
  match field with
  | none => "Part ".toList ++ Text.quoteChars part.toList
  | some name => "Field ".toList ++ name.toList ++ " (".toList ++ Text.quoteChars part.toList ++ [')']

def messageChars : Refusal → List Char
  | .notText given =>
    "Invalid expression ".toList ++ given.display ++ ". There should be exactly ".toList ++
      Decimal.digits Field.all.length ++ " whitespace-delimited fields.".toList
  | .fieldCount text found =>
    "Invalid expression ".toList ++ Text.quoteChars text.toList ++ ". There should be exactly ".toList ++
      Decimal.digits Field.all.length ++ " whitespace-delimited fields, found ".toList ++
      Decimal.digits found ++ ['.']
  | .pairShape field part pair =>
    place field part ++ " has invalid pair ".toList ++ Text.quoteChars pair.toList ++ ['.']
  | .boundText field part _ side bound =>
    place field part ++ " has non-integer ".toList ++ side.name.toList ++ " range ".toList ++
      Text.quoteChars bound.toList ++ ['.']
  | .outsideDomain field part low high value =>
    place (some field) part ++ " has value ".toList ++ Decimal.signedDigits value ++ " outside ".toList ++
      field.toList ++ " bounds ".toList ++ Decimal.signedDigits low ++ '-' :: Decimal.signedDigits high ++ ['.']
  | .unknownZone given => "Invalid timezone string ".toList ++ given.display ++ ['.']

def message (refusal : Refusal) : String := String.ofList refusal.messageChars

end Refusal

/-- Reading fails with a refusal, or on a numeral beyond the digit limit. -/
inductive ReadError where
  | refused (cause : Refusal)
  | numeralTooLong
  deriving Repr

end TimeGate
