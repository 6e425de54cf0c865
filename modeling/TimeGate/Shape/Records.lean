import TimeGate.Schedule.Range
import TimeGate.Settings.Basic
import TimeGate.Shape.Check

/-! The shapes of the records, and their dumps as loose data. Checking drops unknown keys; a dump
holds exactly the keys of its record and checks back to the record it came from. -/

set_option autoImplicit false

namespace TimeGate

open Shape (entry)

namespace Range

def check (value : Value) : Checked Range := do
  let entries ← Shape.record value
  let (first, last) ← (Shape.required "start" Shape.integer entries).both
    (Shape.required "end" Shape.integer entries)
  return ⟨first, last⟩

def dump (range : Range) : Value :=
  .map [entry "start" (.int range.first), entry "end" (.int range.last)]

end Range

namespace RangeSet

/-- The ranges that pass, and the issues of those that do not, under their positions. -/
def checkItems : Nat → List Value → List Range × List Issue
  | _, [] => ([], [])
  | position, item :: rest =>
    let (ranges, issues) := checkItems (position + 1) rest
    match (Range.check item).under (.ofList (Decimal.digits position)) with
    | .ok range => (range :: ranges, issues)
    | .error found => (ranges, found ++ issues)

/-- The ranges of a set. At least one item must pass, and none may fail. -/
def checkRanges : Value → Checked RangeSet
  | .list items =>
    let (ranges, issues) := checkItems 0 items
    match ofList? ranges, issues with
    | some set, [] => .ok set
    | some _, issues => .error issues
    | none, issues => .error (issues ++ [⟨[], .tooShort⟩])
  | _ => .fail .notSequence

def check (value : Value) : Checked RangeSet := do
  let entries ← Shape.record value
  let (_, set) ← (Shape.optional "kind" () (Shape.literal "ranges") entries).both
    (Shape.required "ranges" checkRanges entries)
  return set

def dump (set : RangeSet) : Value :=
  .map [entry "kind" (.text "ranges"), entry "ranges" (.list (set.ranges.map Range.dump))]

end RangeSet

namespace FieldSpec

/-- The record of a field that admits anything. -/
def checkAny (value : Value) : Checked Unit := do
  let entries ← Shape.record value
  Shape.optional "kind" () (Shape.literal "any") entries

def dumpAny : Value := .map [entry "kind" (.text "any")]

/-- The tag `kind` decides which record is meant, and stands in the paths of its issues. -/
def check : Value → Checked FieldSpec
  | .map entries =>
    match lookupText "kind" entries with
    | none => .fail .tagAbsent
    | some (.text "any") => Checked.under "any" ((checkAny (.map entries)).map fun _ => .any)
    | some (.text "ranges") => Checked.under "ranges" ((RangeSet.check (.map entries)).map .union)
    | some _ => .fail .tagUnknown
  | _ => .fail .notTagged

def dump : FieldSpec → Value
  | .any => dumpAny
  | .union set => set.dump

end FieldSpec

namespace PerField

variable {α : Type}

/-- One required part for each field, in order. -/
def check (part : Value → Checked α) (value : Value) : Checked (PerField α) := do
  let entries ← Shape.record value
  let required (field : Field) := Shape.required field.name part entries
  let (minute, hour, dayOfMonth, month, dayOfWeek) ← (required .minute).both
    ((required .hour).both ((required .dayOfMonth).both ((required .month).both (required .dayOfWeek))))
  return ⟨minute, hour, dayOfMonth, month, dayOfWeek⟩

def dump (part : α → Value) (items : PerField α) : Value :=
  .map (Field.all.map fun field => entry field.name (part (items.get field)))

end PerField

namespace Schedule

def check : Value → Checked Schedule := PerField.check FieldSpec.check

def dump : Schedule → Value := PerField.dump FieldSpec.dump

end Schedule

namespace Components

def check : Value → Checked Components := PerField.check Shape.integer

def dump : Components → Value := PerField.dump Value.int

end Components

namespace Domain

def check (value : Value) : Checked Domain := do
  let entries ← Shape.record value
  let (name, label, low, high) ← (Shape.required "name" Shape.text entries).both
    ((Shape.required "label" Shape.text entries).both
      ((Shape.required "low" Shape.integer entries).both (Shape.required "high" Shape.integer entries)))
  return ⟨name, label, low, high⟩

def dump (domain : Domain) : Value :=
  .map [entry "name" (.text domain.name), entry "label" (.text domain.label),
    entry "low" (.int domain.low), entry "high" (.int domain.high)]

end Domain

namespace Settings

def checkLogging (value : Value) : Checked String := do
  let entries ← Shape.record value
  Shape.optional "level" defaultLevel Shape.text entries

def checkEntries (entries : Shape.Entries) : Checked Settings := do
  let (timezone, strict, level) ← (Shape.optional "timezone" defaultTimezone Shape.text entries).both
    ((Shape.optional "strict" false Shape.truth entries).both
      (Shape.optional "logging" defaultLevel checkLogging entries))
  return ⟨timezone, strict, level⟩

/-- Every part has a default. -/
def check (value : Value) : Checked Settings := do
  let entries ← Shape.record value
  checkEntries entries

def dump (settings : Settings) : Value :=
  .map [entry "timezone" (.text settings.timezone), entry "strict" (.bool settings.strict),
    entry "logging" (.map [entry "level" (.text settings.level)])]

end Settings

end TimeGate
