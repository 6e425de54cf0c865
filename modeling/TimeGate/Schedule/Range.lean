import TimeGate.Decimal.Numeral
import TimeGate.Schedule.Field
import TimeGate.Text.Pieces

/-! Ranges, the specifications of fields, and schedules. A range whose start exceeds its end wraps
around: it holds everything from its start upwards and everything up to its end. Wrapping compares
with the two bounds alone and knows no domain. -/

set_option autoImplicit false

namespace TimeGate

structure Range where
  first : Int
  last : Int
  deriving DecidableEq, Repr

namespace Range

def isSingleton (range : Range) : Bool := range.first == range.last

def wraps (range : Range) : Bool := range.last < range.first

/-- Inclusive membership. -/
def admits (range : Range) (value : Int) : Bool :=
  if range.first = range.last then value == range.first
  else if range.first < range.last then range.first ≤ value && value ≤ range.last
  else range.first ≤ value || value ≤ range.last

def chars (range : Range) : List Char :=
  if range.isSingleton then Decimal.signedDigits range.first
  else Decimal.signedDigits range.first ++ '-' :: Decimal.signedDigits range.last

end Range

/-- A union of one or more ranges. Their order is kept and carries no meaning. -/
structure RangeSet where
  first : Range
  others : List Range
  deriving DecidableEq, Repr

namespace RangeSet

def ranges (set : RangeSet) : List Range := set.first :: set.others

def ofList? : List Range → Option RangeSet
  | [] => none
  | first :: others => some ⟨first, others⟩

def chars (set : RangeSet) : List Char := Text.joined [','] (set.ranges.map Range.chars)

end RangeSet

inductive FieldSpec where
  | any
  | union (set : RangeSet)
  deriving DecidableEq, Repr

namespace FieldSpec

def ranges : FieldSpec → List Range
  | .any => []
  | .union set => set.ranges

def admits : FieldSpec → Int → Bool
  | .any, _ => true
  | .union set, value => set.ranges.any fun range => range.admits value

def wraps (spec : FieldSpec) : Bool := spec.ranges.any Range.wraps

def chars : FieldSpec → List Char
  | .any => ['*']
  | .union set => set.chars

def text (spec : FieldSpec) : String := String.ofList spec.chars

end FieldSpec

/-- A parsed schedule text: what each field admits. -/
abbrev Schedule := PerField FieldSpec

namespace Schedule

def chars (schedule : Schedule) : List Char :=
  Text.joined [' '] (schedule.toList.map FieldSpec.chars)

def text (schedule : Schedule) : String := String.ofList schedule.chars

/-- All five fields must admit their component. -/
def admits (schedule : Schedule) (components : Components) : Bool :=
  Field.all.all fun field => (schedule.get field).admits (components.get field)

end Schedule

end TimeGate
