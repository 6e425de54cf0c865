import TimeGate.Proofs.Shape.Parts
import TimeGate.Proofs.Traversal
import TimeGate.Schedule.Reader

/-! Records that are checked, dumped and checked again. Whatever a record was checked from, its dump has the
layout of the record and nothing beside it, and checking the dump gives the record back; so dumps are what
checking settles on. -/

set_option autoImplicit false

namespace TimeGate

/-! ## What dumps look like -/

/-- What a dump holds: which keys, in order, and what under each. -/
inductive Layout where
  | integer
  | truth
  | text
  | word (word : String)
  /-- A list with at least one item. -/
  | items (item : Layout)
  | record (parts : List (String × Layout))
  | either (left right : Layout)

namespace Layout

mutual

inductive Fits : Layout → Value → Prop where
  | integer (n : Int) : Fits .integer (.int n)
  | truth (b : Bool) : Fits .truth (.bool b)
  | text (s : String) : Fits .text (.text s)
  | word (word : String) : Fits (.word word) (.text word)
  | items {item : Layout} {first : Value} {rest : List Value} :
      (∀ value ∈ first :: rest, Fits item value) → Fits (.items item) (.list (first :: rest))
  | record {parts : List (String × Layout)} {entries : Shape.Entries} :
      FitsParts parts entries → Fits (.record parts) (.map entries)
  | left {left right : Layout} {value : Value} : Fits left value → Fits (.either left right) value
  | right {left right : Layout} {value : Value} : Fits right value → Fits (.either left right) value

/-- There is one entry for each part, in order, and no other. -/
inductive FitsParts : List (String × Layout) → Shape.Entries → Prop where
  | nil : FitsParts [] []
  | cons {name : String} {layout : Layout} {value : Value} {parts : List (String × Layout)}
      {entries : Shape.Entries} :
      Fits layout value → FitsParts parts entries →
      FitsParts ((name, layout) :: parts) (Shape.entry name value :: entries)

end

def range : Layout := .record [("start", .integer), ("end", .integer)]

def rangeSet : Layout := .record [("kind", .word "ranges"), ("ranges", .items range)]

def unconstrained : Layout := .record [("kind", .word "any")]

def fieldSpec : Layout := .either unconstrained rangeSet

def perField (part : Layout) : Layout := .record (Field.all.map fun field => (field.name, part))

def domain : Layout := .record [("name", .text), ("label", .text), ("low", .integer), ("high", .integer)]

def settings : Layout :=
  .record [("timezone", .text), ("strict", .truth), ("logging", .record [("level", .text)])]

end Layout

/-- How a record is checked and dumped, and the layout of its dumps. -/
structure Model (α : Type) where
  check : Value → Checked α
  dump : α → Value
  layout : Layout

namespace Model

variable {α : Type} {model : Model α}

structure Sound (model : Model α) : Prop where
  check_dump : ∀ a, model.check (model.dump a) = .ok a
  fits_dump : ∀ a, model.layout.Fits (model.dump a)

/-- A value in the form that its record is dumped in. -/
def settle (model : Model α) (value : Value) : Checked Value := (model.check value).map model.dump

theorem settle_eq_ok_iff {value dumped : Value} :
    model.settle value = .ok dumped ↔ ∃ a, model.check value = .ok a ∧ model.dump a = dumped := by
  unfold settle
  cases model.check value <;> simp [Except.map]

/-- The settled forms are the dumps, and settling changes them no more. -/
theorem Sound.settle_eq_self_iff (sound : model.Sound) {value : Value} :
    model.settle value = .ok value ↔ ∃ a, value = model.dump a := by
  rw [settle_eq_ok_iff]
  constructor
  · rintro ⟨a, -, same⟩
    exact ⟨a, same.symm⟩
  · rintro ⟨a, rfl⟩
    exact ⟨a, sound.check_dump a, rfl⟩

end Model

namespace Shape

theorem required_of_lookup {α : Type} {name : String} {check : Value → Checked α} {entries : Entries}
    {value : Value} {a : α} (found : lookupText name entries = some value) (passes : check value = .ok a) :
    required name check entries = .ok a := by
  rw [required, found]
  exact Checked.under_eq_ok_iff.mpr passes

end Shape

/-! ## Each record -/

namespace Range

def model : Model Range := ⟨check, dump, .range⟩

theorem sound_model : model.Sound where
  check_dump _ := rfl
  fits_dump range := .record (.cons (.integer range.first) (.cons (.integer range.last) .nil))

end Range

namespace RangeSet

def model : Model RangeSet := ⟨check, dump, .rangeSet⟩

theorem checkItems_dump (position : Nat) (ranges : List Range) :
    checkItems position (ranges.map Range.dump) = (ranges, []) := by
  induction ranges generalizing position with
  | nil => rfl
  | cons range rest ih =>
    rw [List.map_cons, checkItems, ih]
    rfl

theorem checkRanges_dump (set : RangeSet) : checkRanges (.list (set.ranges.map Range.dump)) = .ok set := by
  simp only [checkRanges, checkItems_dump]
  rfl

theorem sound_model : model.Sound where
  check_dump set := by
    have found : lookupText "ranges" [Shape.entry "kind" (.text "ranges"),
        Shape.entry "ranges" (.list (set.ranges.map Range.dump))] =
        some (.list (set.ranges.map Range.dump)) := rfl
    have ranges := Shape.required_of_lookup found (checkRanges_dump set)
    simp only [model, check, dump, Shape.record, bind, Except.bind, ranges]
    rfl
  fits_dump set := by
    refine .record (.cons (.word "ranges") (.cons (.items ?_) .nil))
    intro value member
    obtain ⟨range, -, rfl⟩ := List.mem_map.mp (show value ∈ set.ranges.map Range.dump from member)
    exact Range.sound_model.fits_dump range

/-- A set is never made of no ranges. -/
theorem not_check_of_empty {entries : Shape.Entries} (empty : lookupText "ranges" entries = some (.list [])) :
    (check (.map entries)).Fails := by
  have fails : (Shape.required "ranges" checkRanges entries).Fails := by
    rw [Shape.required, empty]
    exact Checked.fails_error _
  obtain ⟨issues, failed⟩ := Checked.fails_both_iff.mpr
    (.inr fails : (Shape.optional "kind" () (Shape.literal "ranges") entries).Fails ∨ _)
  refine ⟨issues, ?_⟩
  simp only [check, Shape.record, bind, Except.bind, failed]

end RangeSet

namespace FieldSpec

def anyModel : Model Unit := ⟨checkAny, fun _ => dumpAny, .unconstrained⟩

def model : Model FieldSpec := ⟨check, dump, .fieldSpec⟩

theorem sound_anyModel : anyModel.Sound where
  check_dump _ := rfl
  fits_dump _ := .record (.cons (.word "any") .nil)

theorem sound_model : model.Sound where
  check_dump spec := by
    cases spec with
    | any => rfl
    | union set =>
      -- The tag of the dump decides for the set, which is left to be checked.
      have again := RangeSet.sound_model.check_dump set
      change Checked.under "ranges" ((RangeSet.check set.dump).map FieldSpec.union) = _
      rw [show RangeSet.check set.dump = .ok set from again]
      rfl
  fits_dump spec := by
    cases spec with
    | any => exact .left (sound_anyModel.fits_dump ())
    | union set => exact .right (RangeSet.sound_model.fits_dump set)

end FieldSpec

namespace PerField

variable {α : Type}

def model (part : Model α) : Model (PerField α) := ⟨check part.check, dump part.dump, .perField part.layout⟩

theorem lookupText_dump (part : α → Value) (items : PerField α) (field : Field) :
    lookupText field.name (Field.all.map fun field => Shape.entry field.name (part (items.get field))) =
      some (part (items.get field)) := by
  cases field <;> rfl

theorem sound_model {part : Model α} (sound : part.Sound) : (model part).Sound where
  check_dump items := by
    have each (field : Field) : Shape.required field.name part.check
        (Field.all.map fun field => Shape.entry field.name (part.dump (items.get field))) =
        .ok (items.get field) :=
      Shape.required_of_lookup (lookupText_dump _ _ _) (sound.check_dump _)
    simp only [model, check, dump, Shape.record, bind, Except.bind, each]
    rfl
  fits_dump items := by
    have part (field : Field) := sound.fits_dump (items.get field)
    exact .record (.cons (part .minute) (.cons (part .hour) (.cons (part .dayOfMonth) (.cons (part .month)
      (.cons (part .dayOfWeek) .nil)))))

end PerField

namespace Domain

def model : Model Domain := ⟨check, dump, .domain⟩

theorem sound_model : model.Sound where
  check_dump _ := rfl
  fits_dump domain := .record (.cons (.text domain.name) (.cons (.text domain.label)
    (.cons (.integer domain.low) (.cons (.integer domain.high) .nil))))

end Domain

namespace Settings

def model : Model Settings := ⟨check, dump, .settings⟩

theorem sound_model : model.Sound where
  check_dump _ := rfl
  fits_dump settings := .record (.cons (.text settings.timezone) (.cons (.truth settings.strict)
    (.cons (.record (.cons (.text settings.level) .nil)) .nil)))

end Settings

def integerModel : Model Int := ⟨Shape.integer, .int, .integer⟩

theorem sound_integerModel : integerModel.Sound := ⟨fun _ => rfl, .integer⟩

/-! ## All records -/

inductive RecordKind where
  | range
  | rangeSet
  | unconstrained
  | fieldSpec
  | schedule
  | components
  | domain
  | settings

namespace RecordKind

def Carrier : RecordKind → Type
  | .range => Range
  | .rangeSet => RangeSet
  | .unconstrained => Unit
  | .fieldSpec => FieldSpec
  | .schedule => Schedule
  | .components => Components
  | .domain => Domain
  | .settings => Settings

def model : (kind : RecordKind) → Model kind.Carrier
  | .range => Range.model
  | .rangeSet => RangeSet.model
  | .unconstrained => FieldSpec.anyModel
  | .fieldSpec => FieldSpec.model
  | .schedule => ⟨Schedule.check, Schedule.dump, .perField .fieldSpec⟩
  | .components => ⟨Components.check, Components.dump, .perField .integer⟩
  | .domain => Domain.model
  | .settings => Settings.model

theorem sound_model : (kind : RecordKind) → kind.model.Sound
  | .range => Range.sound_model
  | .rangeSet => RangeSet.sound_model
  | .unconstrained => FieldSpec.sound_anyModel
  | .fieldSpec => FieldSpec.sound_model
  | .schedule => PerField.sound_model FieldSpec.sound_model
  | .components => PerField.sound_model sound_integerModel
  | .domain => Domain.sound_model
  | .settings => Settings.sound_model

/-- Checking a value and dumping what it is checked as is a projection onto the dumps: the dump checks back
to the same record and settles as itself, and it holds the parts of the record and no others, with at least
one range in every set of ranges. A set given without a range is refused. The dump of every schedule that is
read from a text checks back to that schedule. -/
theorem checking_projects_onto_dumps :
    (∀ (kind : RecordKind) (value : Value) (a : kind.Carrier), kind.model.check value = .ok a →
      kind.model.check (kind.model.dump a) = .ok a ∧
      kind.model.settle (kind.model.dump a) = .ok (kind.model.dump a) ∧
      kind.model.layout.Fits (kind.model.dump a)) ∧
    (∀ (kind : RecordKind) (value settled : Value), kind.model.settle value = .ok settled →
      kind.model.settle settled = .ok settled) ∧
    (∀ entries, lookupText "ranges" entries = some (.list []) → (RangeSet.check (.map entries)).Fails) ∧
    ∀ strict text schedule, Schedule.read strict text = .ok schedule →
      Schedule.check schedule.dump = .ok schedule := by
  refine ⟨fun kind value a _ => ?_, fun kind value settled once => ?_,
    fun entries => RangeSet.not_check_of_empty, fun strict text schedule _ => ?_⟩
  · have sound := kind.sound_model
    exact ⟨sound.check_dump a, sound.settle_eq_self_iff.mpr ⟨a, rfl⟩, sound.fits_dump a⟩
  · obtain ⟨a, -, dumped⟩ := Model.settle_eq_ok_iff.mp once
    exact kind.sound_model.settle_eq_self_iff.mpr ⟨a, dumped.symm⟩
  · exact (sound_model .schedule).check_dump schedule

/-- A set with numerals, a truth value and a whole floating-point number for bounds, a key too many and
the tag left out. -/
theorem loosely_written_set_settles :
    let value : Value := .map [Shape.entry "note" .null, Shape.entry "ranges" (.list [
      .map [Shape.entry "end" (.bool true), Shape.entry "start" (.text " +0_7.00 ")],
      .map [Shape.entry "start" (.float (.finite true 3 1)), Shape.entry "end" (.text "-0"),
        Shape.entry "step" (.int 2)]])]
    let set : RangeSet := ⟨⟨7, 1⟩, [⟨-6, 0⟩]⟩
    RangeSet.check value = .ok set ∧ RangeSet.check set.dump = .ok set ∧ Layout.rangeSet.Fits set.dump := by
  intro value set
  have checked : RangeSet.check value = .ok set := Traversal.eq_ok_of_toOption (by decide +kernel)
  obtain ⟨again, -, fits⟩ := checking_projects_onto_dumps.1 .rangeSet value set checked
  exact ⟨checked, again, fits⟩

end RecordKind

end TimeGate
