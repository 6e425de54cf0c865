import TimeGate.Proofs.Gate.Building
import TimeGate.Proofs.Schedule.FirstDefect
import TimeGate.Proofs.Schedule.Meaning

/-! Strict and lenient reading of the same text. Strict reading accepts a part of what lenient reading
accepts and reads it alike. Where both refuse a text they blame the same defect, unless a value out
of its domain comes before the first defect that lenient reading knows. -/

set_option autoImplicit false

namespace TimeGate

open TimeGate.Text TimeGate.Traversal

namespace Field

/-- How many fields come before this one. -/
def position (field : Field) : Nat := all.idxOf field

theorem all_getElem?_iff {field : Field} {index : Nat} :
    all[index]? = some field ↔ index = field.position := by
  match index with
  | 0 | 1 | 2 | 3 | 4 => cases field <;> decide
  | index + 5 => cases field <;> simp [all, position]

theorem eq_of_position {field other : Field} (same : field.position = other.position) : field = other :=
  Option.some.inj ((all_getElem?_iff.mpr rfl).symm.trans (all_getElem?_iff.mpr same))

/-- The first field that fails is the one with nothing wrong in an earlier position. -/
theorem isFirst_all_iff {fails : Field → Prop} {field : Field} :
    IsFirst fails all field ↔
      fails field ∧ ∀ other : Field, other.position < field.position → ¬ fails other := by
  simp only [isFirst_iff_getElem?, all_getElem?_iff, exists_eq_left, and_congr_right_iff]
  intro _
  exact ⟨fun sound other small => sound _ small other rfl,
    fun sound index small other same => sound other (same ▸ small)⟩

end Field

namespace Grammar

/-! ## Places -/

/-- A piece of a text, told by its field and by how many pieces of the token come before it. -/
@[ext] structure Place where
  field : Field
  piece : Nat

/-- In an earlier field, or an earlier piece of the same field. -/
def Place.Before (place other : Place) : Prop :=
  place.field.position < other.field.position ∨ place.field = other.field ∧ place.piece < other.piece

theorem Place.before_trichotomy (place other : Place) :
    place.Before other ∨ place = other ∨ other.Before place := by
  rcases Nat.lt_trichotomy place.field.position other.field.position with less | same | more
  · exact .inl (.inl less)
  · have field := Field.eq_of_position same
    rcases Nat.lt_trichotomy place.piece other.piece with less | piece | more
    · exact .inl (.inr ⟨field, less⟩)
    · exact .inr (.inl (Place.ext field piece))
    · exact .inr (.inr (.inr ⟨field.symm, more⟩))
  · exact .inr (.inr (.inl more))

variable {strict : Bool} {tokens : PerField (List Char)} {place : Place} {e : ReadError}

/-- What is wrong with the piece in a place. A token with a piece `*` has nothing wrong anywhere. -/
def DefectAt (strict : Bool) (tokens : PerField (List Char)) (place : Place) (e : ReadError) : Prop :=
  ∃ parts piece, Split ',' (tokens.get place.field) parts ∧ ['*'] ∉ parts ∧
    parts[place.piece]? = some piece ∧
    PieceDefect (some place.field.domain) strict (tokens.get place.field) piece e

/-- The defect in a place, with nothing wrong in any place before it. -/
def FirstDefectAt (strict : Bool) (tokens : PerField (List Char)) (place : Place) (e : ReadError) : Prop :=
  DefectAt strict tokens place e ∧
    ∀ earlier : Place, earlier.Before place → ∀ cause, ¬ DefectAt strict tokens earlier cause

theorem tokenDefect_iff {field : Field} :
    TokenDefect (some field.domain) strict (tokens.get field) e ↔
      ∃ index, DefectAt strict tokens ⟨field, index⟩ e ∧
        ∀ earlier < index, ∀ cause, ¬ DefectAt strict tokens ⟨field, earlier⟩ cause := by
  constructor
  · rintro ⟨parts, piece, split, plain, isFirst, defect⟩
    obtain ⟨index, found, -, sound⟩ := isFirst_iff_getElem?.mp isFirst
    refine ⟨index, ⟨parts, piece, split, plain, found, defect⟩, ?_⟩
    rintro earlier small cause ⟨others, other, otherSplit, -, here, wrong⟩
    rw [otherSplit.unique split] at here
    exact sound earlier small other here ⟨cause, wrong⟩
  · rintro ⟨index, ⟨parts, piece, split, plain, found, defect⟩, sound⟩
    refine ⟨parts, piece, split, plain, isFirst_iff_getElem?.mpr ⟨index, found, ⟨e, defect⟩, ?_⟩, defect⟩
    rintro earlier small other here ⟨cause, wrong⟩
    exact sound earlier small cause ⟨parts, other, split, plain, here, wrong⟩

theorem exists_tokenDefect_iff {field : Field} :
    (∃ cause, TokenDefect (some field.domain) strict (tokens.get field) cause) ↔
      ∃ index cause, DefectAt strict tokens ⟨field, index⟩ cause := by
  constructor
  · rintro ⟨cause, defect⟩
    obtain ⟨index, here, -⟩ := tokenDefect_iff.mp defect
    exact ⟨index, cause, here⟩
  · rintro ⟨index, cause, parts, piece, split, plain, found, defect⟩
    obtain ⟨first, isFirst⟩ : ∃ first, IsFirst
        (fun other => ∃ cause, PieceDefect (some field.domain) strict (tokens.get field) other cause)
        parts first := exists_isFirst (List.mem_of_getElem? found) ⟨cause, defect⟩
    obtain ⟨blamed, wrong⟩ := isFirst.fails
    exact ⟨blamed, parts, first, split, plain, isFirst, wrong⟩

/-- The first wrong piece of the first wrong token stands in the first wrong place. -/
theorem lineDefect_iff : LineDefect strict tokens e ↔ ∃ place, FirstDefectAt strict tokens place e := by
  simp only [LineDefect, Field.isFirst_all_iff, exists_tokenDefect_iff]
  constructor
  · rintro ⟨field, ⟨-, sound⟩, defect⟩
    obtain ⟨index, here, before⟩ := tokenDefect_iff.mp defect
    refine ⟨⟨field, index⟩, here, ?_⟩
    rintro ⟨other, piece⟩ (less | ⟨rfl, less⟩) cause wrong
    · exact sound other less ⟨piece, cause, wrong⟩
    · exact before piece less cause wrong
  · rintro ⟨⟨field, index⟩, here, sound⟩
    refine ⟨field, ⟨⟨index, e, here⟩, ?_⟩, tokenDefect_iff.mpr ⟨index, here, ?_⟩⟩
    · rintro other less ⟨piece, cause, wrong⟩
      exact sound ⟨other, piece⟩ (.inl less) cause wrong
    · intro earlier less cause wrong
      exact sound ⟨field, earlier⟩ (.inr ⟨rfl, less⟩) cause wrong

/-! ## Defects under either strictness -/

/-- The error about a value out of its domain, in the field and the token that a place is in. -/
def outsideAt (tokens : PerField (List Char)) (place : Place) (value : Int) : ReadError :=
  .refused (.outsideDomain place.field.name (.ofList (tokens.get place.field)) place.field.domain.low
    place.field.domain.high value)

theorem DefectAt.strict_of_lenient (defect : DefectAt false tokens place e) :
    DefectAt true tokens place e := by
  obtain ⟨parts, piece, split, plain, found, defect⟩ := defect
  refine ⟨parts, piece, split, plain, found, ?_⟩
  cases defect with
  | pair defect => exact .pair defect
  | startOutside isStrict => contradiction
  | stopOutside isStrict => contradiction

/-- What is wrong under strict reading alone is a value out of its domain. -/
theorem DefectAt.lenient_or_outside (defect : DefectAt true tokens place e) :
    DefectAt false tokens place e ∨
      ∃ value, ¬ place.field.domain.Holds value ∧ e = outsideAt tokens place value := by
  obtain ⟨parts, piece, split, plain, found, defect⟩ := defect
  cases defect with
  | pair defect => exact .inl ⟨parts, piece, split, plain, found, .pair defect⟩
  | startOutside _ given _ outside =>
    cases given
    exact .inr ⟨_, outside, rfl⟩
  | stopOutside _ given _ _ outside =>
    cases given
    exact .inr ⟨_, outside, rfl⟩

theorem DefectAt.unique {other : ReadError} (defect : DefectAt strict tokens place e)
    (again : DefectAt strict tokens place other) : e = other := by
  obtain ⟨parts, piece, split, -, found, defect⟩ := defect
  obtain ⟨others, second, otherSplit, -, here, wrong⟩ := again
  rw [otherSplit.unique split, found] at here
  cases here
  rw [← FieldSpec.readPiece_eq_error_iff] at defect wrong
  exact Except.error.inj (defect.symm.trans wrong)

/-- The first strict defect is the first lenient one, or a value out of its domain before it. -/
theorem FirstDefectAt.strict_of_lenient {other : Place} {cause : ReadError}
    (lenient : FirstDefectAt false tokens place e) (strict : FirstDefectAt true tokens other cause) :
    (other = place ∧ cause = e) ∨
      (other.Before place ∧ ∃ value, ¬ other.field.domain.Holds value ∧
        cause = outsideAt tokens other value) := by
  rcases other.before_trichotomy place with earlier | rfl | later
  · rcases strict.1.lenient_or_outside with defect | outside
    · exact absurd defect (lenient.2 other earlier cause)
    · exact .inr ⟨earlier, outside⟩
  · exact .inl ⟨rfl, strict.1.unique lenient.1.strict_of_lenient⟩
  · exact absurd lenient.1.strict_of_lenient (strict.2 place later e)

end Grammar

/-! ## The two readings -/

/-- Every bound is a legal value of its field. -/
def Schedule.InDomain (schedule : Schedule) : Prop :=
  ∀ field, ∀ range ∈ (schedule.get field).ranges,
    field.domain.Holds range.first ∧ field.domain.Holds range.last

theorem Field.domain_inhabited (field : Field) : field.domain.Holds field.domain.low := by
  cases field <;> decide

theorem Range.admits_first (range : Range) : range.admits range.first = true := by
  rw [Range.admits_iff, Between]
  omega

/-- A field admits anything, or at least the start of its first range. -/
theorem Schedule.InDomain.exists_admitted {schedule : Schedule} (legal : schedule.InDomain)
    (field : Field) : ∃ value, field.domain.Holds value ∧ (schedule.get field).admits value = true := by
  have bounds := legal field
  cases spec : schedule.get field with
  | any => exact ⟨_, field.domain_inhabited, rfl⟩
  | union set =>
    rw [spec] at bounds
    refine ⟨set.first.first, (bounds set.first List.mem_cons_self).1, ?_⟩
    exact List.any_eq_true.mpr ⟨set.first, List.mem_cons_self, set.first.admits_first⟩

namespace Schedule

open TimeGate.Grammar

variable {text : String} {e : ReadError}

theorem read_true_eq_ok_iff {schedule : Schedule} :
    read true text = .ok schedule ↔ read false text = .ok schedule ∧ schedule.InDomain := by
  rw [read_eq_ok_iff, read_false_eq_ok_iff]
  constructor
  · rintro ⟨tokens, spaced, each⟩
    exact ⟨⟨tokens, spaced, fun field => (each field).1⟩,
      fun field range member => (each field).2 range member rfl field.domain rfl⟩
  · rintro ⟨⟨tokens, spaced, written⟩, legal⟩
    refine ⟨tokens, spaced, fun field => ⟨written field, fun range member _ d given => ?_⟩⟩
    cases given
    exact legal field range member

theorem read_five_eq_error_iff_place {strict : Bool} {tokens : PerField (List Char)}
    (spaced : Spaced text.toList tokens.toList) :
    read strict text = .error e ↔ ∃ place, FirstDefectAt strict tokens place e :=
  (read_five_eq_error_iff spaced).trans lineDefect_iff

/-- A text that lenient reading refuses is refused by strict reading as well. -/
theorem exists_read_true_error (failed : read false text = .error e) :
    ∃ cause, read true text = .error cause := by
  cases strict : read true text with
  | error cause => exact ⟨cause, rfl⟩
  | ok schedule =>
    rw [(read_true_eq_ok_iff.mp strict).1] at failed
    contradiction

theorem read_true_of_read_false_error (failed : read false text = .error e) :
    read true text = .error e ∨
      ∃ tokens place earlier value, Spaced text.toList (PerField.toList tokens) ∧
        FirstDefectAt false tokens place e ∧ earlier.Before place ∧
        ¬ earlier.field.domain.Holds value ∧
        FirstDefectAt true tokens earlier (outsideAt tokens earlier value) ∧
        read true text = .error (outsideAt tokens earlier value) := by
  obtain ⟨cause, strict⟩ := exists_read_true_error failed
  rcases read_eq_error_iff.mp failed with ⟨words, spaced, count, rfl⟩ | ⟨tokens, spaced, defect⟩
  · exact .inl (read_of_other spaced count)
  · obtain ⟨place, lenientFirst⟩ := lineDefect_iff.mp defect
    obtain ⟨other, strictFirst⟩ := (read_five_eq_error_iff_place spaced).mp strict
    rcases lenientFirst.strict_of_lenient strictFirst with ⟨-, rfl⟩ | ⟨earlier, value, outside, rfl⟩
    · exact .inl strict
    · exact .inr ⟨tokens, place, other, value, spaced, lenientFirst, earlier, outside, strictFirst, strict⟩

/-- Only a value out of its domain is a fault to strict reading and none to lenient reading. -/
theorem read_false_of_read_true_error (failed : read true text = .error e)
    (other : ∀ tokens place value, e ≠ outsideAt tokens place value) : read false text = .error e := by
  rcases read_eq_error_iff.mp failed with ⟨words, spaced, count, rfl⟩ | ⟨tokens, spaced, defect⟩
  · exact read_of_other spaced count
  · obtain ⟨place, here, sound⟩ := lineDefect_iff.mp defect
    refine (read_five_eq_error_iff_place spaced).mpr ⟨place, ?_, ?_⟩
    · rcases here.lenient_or_outside with lenient | ⟨value, -, same⟩
      · exact lenient
      · exact absurd same (other tokens place value)
    · exact fun earlier before cause defect => sound earlier before cause defect.strict_of_lenient

/-- Strict reading is lenient reading with a filter: a text is accepted if, in addition, every bound
is a legal value, and it is then read alike. Gates of the two readings decide alike, and each field
admits one of its legal values. A refusal is the one of lenient reading or blames a value out of its
domain; beside a lenient refusal, that value stands in an earlier field or an earlier piece. -/
theorem strict_reading_filters (text : String) :
    (∀ schedule, read true text = .ok schedule ↔ read false text = .ok schedule ∧ schedule.InDomain) ∧
    (∀ schedule, read true text = .ok schedule →
      ∀ field, ∃ value, field.domain.Holds value ∧ (schedule.get field).admits value = true) ∧
    (∀ provider zone strictGate, Gate.build provider (.text text) zone true = .ok strictGate →
      ∃ lenientGate, Gate.build provider (.text text) zone false = .ok lenientGate ∧
        ∀ candidate, strictGate.allows provider candidate = lenientGate.allows provider candidate) ∧
    (∀ e, read true text = .error e →
      (∀ field part low high value, e ≠ .refused (.outsideDomain field part low high value)) →
      read false text = .error e) ∧
    ∀ e, read false text = .error e → read true text = .error e ∨
      ∃ tokens place earlier value, Spaced text.toList (PerField.toList tokens) ∧
        FirstDefectAt false tokens place e ∧ earlier.Before place ∧
        ¬ earlier.field.domain.Holds value ∧
        FirstDefectAt true tokens earlier (outsideAt tokens earlier value) ∧
        read true text = .error (outsideAt tokens earlier value) := by
  refine ⟨fun schedule => read_true_eq_ok_iff, fun schedule ok => ?_, fun provider zone gate built => ?_,
    fun e failed other => ?_, fun e failed => read_true_of_read_false_error failed⟩
  · exact (read_true_eq_ok_iff.mp ok).2.exists_admitted
  · obtain ⟨schedule, name, ok, rfl, known, rfl⟩ := Gate.build_eq_ok_iff.mp built
    have lenient : readValue false (.text text) = .ok schedule := (read_true_eq_ok_iff.mp ok).1
    exact ⟨⟨schedule, name, false⟩, Gate.build_eq_ok_iff.mpr ⟨schedule, name, lenient, rfl, known, rfl⟩,
      Gate.allows_congr rfl rfl⟩
  · exact read_false_of_read_true_error failed fun tokens place value => other _ _ _ _ _

end Schedule

end TimeGate
