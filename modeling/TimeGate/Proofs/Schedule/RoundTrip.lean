import TimeGate.Proofs.Schedule.FirstDefect
import TimeGate.Proofs.Schedule.Printing

/-! Reading printed schedules back. Printing is undone by reading as long as no bound is negative.
The sign of a negative bound is taken for a dash, which leaves an empty start before it or one
segment too many around it, and the first such range is what reading complains about. -/

set_option autoImplicit false

namespace TimeGate

open TimeGate.Decimal TimeGate.Text TimeGate.Traversal TimeGate.Grammar

namespace Range

/-- Both bounds have at most as many digits as are read. -/
def Short (range : Range) : Prop :=
  (digits range.first.natAbs).length ≤ digitLimit ∧ (digits range.last.natAbs).length ≤ digitLimit

instance (range : Range) : Decidable range.Short := inferInstanceAs (Decidable (_ ∧ _))

def Nonneg (range : Range) : Prop := 0 ≤ range.first ∧ 0 ≤ range.last

instance (range : Range) : Decidable range.Nonneg := inferInstanceAs (Decidable (_ ∧ _))

/-- What reading makes of a printed range with a negative bound. The sign of a single value leaves
an empty start; with two values there are more dashes than a piece may have. -/
def clash (field : Option String) (part : List Char) (range : Range) : Refusal :=
  if range.first = range.last then .boundText field (.ofList part) (.ofList range.chars) .start ""
  else .pairShape field (.ofList part) (.ofList range.chars)

theorem piece_chars {range : Range} (short : range.Short) (nonneg : range.Nonneg) :
    Piece range.chars range := by
  obtain ⟨first, last⟩ := range
  obtain ⟨n, rfl⟩ := Int.eq_ofNat_of_zero_le nonneg.1
  obtain ⟨m, rfl⟩ := Int.eq_ofNat_of_zero_le nonneg.2
  have start : Bound (digits n) := ⟨numeral_digits n, short.1⟩
  have stop : Bound (digits m) := ⟨numeral_digits m, short.2⟩
  by_cases single : n = m
  · subst single
    simpa [chars, isSingleton, signedDigits] using Piece.single start
  · simpa [chars, isSingleton, signedDigits, Int.ofNat_inj, single] using Piece.pair start stop

theorem pairDefect_chars {range : Range} {field : Option String} {part : List Char}
    (negative : ¬ range.Nonneg) :
    PairDefect field part range.chars (.refused (range.clash field part)) := by
  have parts := range.pieces_chars
  unfold clash
  unfold Nonneg at negative
  by_cases single : range.first = range.last
  · have sign : range.first < 0 := by omega
    rw [if_pos single, segments, if_pos sign, List.append_nil] at parts
    rw [if_pos single]
    -- The segment before the sign is empty, and no numeral is.
    exact .start (split_iff.mpr parts) (Nat.le_refl 1) (.text fun numeral => numeral.1 rfl)
  · rw [if_neg single] at parts ⊢
    -- One dash stands between the bounds, and a sign adds another.
    refine .shape (split_iff.mpr parts) ?_
    rw [List.length_append, length_segments, length_segments]
    split <;> split <;> omega

end Range

namespace FieldSpec

def Short (spec : FieldSpec) : Prop := ∀ range ∈ spec.ranges, range.Short

instance (spec : FieldSpec) : Decidable spec.Short := List.decidableBAll _ _

def Nonneg (spec : FieldSpec) : Prop := ∀ range ∈ spec.ranges, range.Nonneg

variable {domain : Option Domain} {part : List Char} {e : ReadError}

theorem pieceDefect_chars_iff {range : Range} (short : range.Short) :
    PieceDefect domain false part range.chars e ↔
      ¬ range.Nonneg ∧ e = .refused (range.clash (domain.map Domain.name) part) := by
  rw [← readPiece_eq_error_iff]
  by_cases nonneg : range.Nonneg
  · have read : readPiece domain false part range.chars = .ok range :=
      readPiece_eq_ok_iff.mpr ⟨range.piece_chars short nonneg, Schedule.legal_lenient domain range⟩
    simp [read, nonneg]
  · have defect : PieceDefect domain false part range.chars _ := .pair (Range.pairDefect_chars nonneg)
    simp [readPiece_eq_error_iff.mpr defect, nonneg, eq_comm]

theorem token_chars {spec : FieldSpec} (short : spec.Short) (nonneg : spec.Nonneg) :
    Token spec.chars spec := by
  cases spec with
  | any => exact .any (split_pieces ',' ['*']) List.mem_cons_self
  | union set =>
    refine .union set.split_chars set.star_not_mem (List.forall₂_map_left_iff.mpr ?_)
    refine List.forall₂_same.mpr fun range member => ?_
    exact range.piece_chars (short range member) (nonneg range member)

/-- Printing keeps the ranges apart, so the first piece that cannot be read is the one of the first
range with a negative bound. -/
theorem tokenDefect_chars_iff {spec : FieldSpec} (short : spec.Short) :
    TokenDefect domain false spec.chars e ↔
      ∃ range, IsFirst (fun other => ¬ other.Nonneg) spec.ranges range ∧
        e = .refused (range.clash (domain.map Domain.name) spec.chars) := by
  cases spec with
  | any =>
    constructor
    · rintro ⟨parts, piece, split, plain, -⟩
      rw [← split_iff.mp split] at plain
      exact (plain List.mem_cons_self).elim
    · rintro ⟨range, isFirst, -⟩
      exact absurd isFirst not_isFirst_nil
  | union set =>
    -- Pieces fail where their ranges are negative, so the two firsts correspond.
    have first_iff (range : Range) :
        IsFirst (fun other : Range => ∃ cause, PieceDefect domain false set.chars other.chars cause)
          set.ranges range ↔ IsFirst (fun other => ¬ other.Nonneg) set.ranges range :=
      isFirst_congr fun other member => by simp [pieceDefect_chars_iff (short other member)]
    constructor
    · rintro ⟨parts, piece, split, plain, isFirst, defect⟩
      rw [split.unique set.split_chars, isFirst_map_iff] at isFirst
      obtain ⟨range, isFirst, rfl⟩ := isFirst
      have negative := (first_iff range).mp isFirst
      exact ⟨range, negative, ((pieceDefect_chars_iff (short range negative.mem)).mp defect).2⟩
    · rintro ⟨range, isFirst, rfl⟩
      refine ⟨_, range.chars, set.split_chars, set.star_not_mem, ?_, ?_⟩
      · exact isFirst_map_iff.mpr ⟨range, (first_iff range).mpr isFirst, rfl⟩
      · exact (pieceDefect_chars_iff (short range isFirst.mem)).mpr ⟨isFirst.fails, rfl⟩

end FieldSpec

namespace Schedule

def Short (schedule : Schedule) : Prop := ∀ field, (schedule.get field).Short

def Nonneg (schedule : Schedule) : Prop := ∀ field, (schedule.get field).Nonneg

variable {schedule : Schedule} {e : ReadError}

/-- The first field with a negative bound, and the first range of it with one. -/
def FirstNegative (schedule : Schedule) (field : Field) (range : Range) : Prop :=
  IsFirst (fun other => ¬ (schedule.get other).Nonneg) Field.all field ∧
    IsFirst (fun other => ¬ other.Nonneg) (schedule.get field).ranges range

theorem exists_firstNegative (negative : ¬ schedule.Nonneg) :
    ∃ field range, schedule.FirstNegative field range := by
  obtain ⟨somewhere, negative⟩ := not_forall.mp negative
  have inField : ∃ field, IsFirst (fun other => ¬ (schedule.get other).Nonneg) Field.all field :=
    exists_isFirst somewhere.mem_all negative
  obtain ⟨field, isFirst⟩ := inField
  have inRange : ∃ range ∈ (schedule.get field).ranges, ¬ range.Nonneg := by
    simpa [FieldSpec.Nonneg] using isFirst.fails
  obtain ⟨range, firstRange⟩ := exists_isFirst_iff.mpr inRange
  exact ⟨field, range, isFirst, firstRange⟩

/-- The printed fields. -/
def tokens (schedule : Schedule) : PerField (List Char) := .ofFn fun field => (schedule.get field).chars

theorem spaced_tokens (schedule : Schedule) : Spaced schedule.text.toList schedule.tokens.toList := by
  rw [text, String.toList_ofList]
  exact schedule.spaced_chars

theorem tokenDefect_tokens_iff (short : schedule.Short) {field : Field} :
    TokenDefect (some field.domain) false (schedule.tokens.get field) e ↔
      ∃ range, IsFirst (fun other => ¬ other.Nonneg) (schedule.get field).ranges range ∧
        e = .refused (range.clash (some field.name) (schedule.get field).chars) := by
  rw [tokens, PerField.get_ofFn, FieldSpec.tokenDefect_chars_iff (short field)]
  rfl

theorem exists_tokenDefect_tokens_iff (short : schedule.Short) {field : Field} :
    (∃ cause, TokenDefect (some field.domain) false (schedule.tokens.get field) cause) ↔
      ¬ (schedule.get field).Nonneg := by
  simp only [tokenDefect_tokens_iff short]
  rw [exists_comm]
  simp [exists_isFirst_iff, FieldSpec.Nonneg]

theorem read_text_of_nonneg (short : schedule.Short) (nonneg : schedule.Nonneg) :
    read false schedule.text = .ok schedule := by
  refine read_false_eq_ok_iff.mpr ⟨schedule.tokens, schedule.spaced_tokens, fun field => ?_⟩
  rw [tokens, PerField.get_ofFn]
  exact FieldSpec.token_chars (short field) (nonneg field)

theorem read_text_of_firstNegative (short : schedule.Short) {field : Field} {range : Range}
    (first : schedule.FirstNegative field range) :
    read false schedule.text =
      .error (.refused (range.clash (some field.name) (schedule.get field).chars)) := by
  refine (read_five_eq_error_iff schedule.spaced_tokens).mpr ⟨field, ?_, ?_⟩
  · exact (isFirst_congr fun other _ => exists_tokenDefect_tokens_iff short).mpr first.1
  · exact (tokenDefect_tokens_iff short).mpr ⟨range, first.2, rfl⟩

/-- A printed schedule is read back as it was unless it has a negative bound; then reading blames the
first field that has one, and its first range that has one. No two schedules are printed alike. -/
theorem read_text_iff (schedule : Schedule) (short : schedule.Short) :
    (read false schedule.text = .ok schedule ↔ schedule.Nonneg) ∧
    (¬ schedule.Nonneg → ∃ field range, schedule.FirstNegative field range ∧
      read false schedule.text =
        .error (.refused (range.clash (some field.name) (schedule.get field).chars))) ∧
    ∀ other : Schedule, other.text = schedule.text → other = schedule := by
  have blamed (negative : ¬ schedule.Nonneg) : ∃ field range, schedule.FirstNegative field range ∧
      read false schedule.text =
        .error (.refused (range.clash (some field.name) (schedule.get field).chars)) := by
    obtain ⟨field, range, first⟩ := exists_firstNegative negative
    exact ⟨field, range, first, read_text_of_firstNegative short first⟩
  refine ⟨⟨fun read => ?_, read_text_of_nonneg short⟩, blamed, fun other same => text_injective same⟩
  by_contra negative
  obtain ⟨field, range, -, failed⟩ := blamed negative
  rw [read] at failed
  contradiction

/-- Two fields have negative bounds, one of them in a range of two values behind a harmless one. -/
theorem read_text_two_negative_fields :
    let schedule : Schedule := ⟨.any, .union ⟨⟨5, 5⟩, [⟨-3, 2⟩, ⟨-1, -1⟩]⟩, .any, .union ⟨⟨-4, -4⟩, []⟩, .any⟩
    schedule.Short ∧ ¬ schedule.Nonneg ∧ ∃ field range, schedule.FirstNegative field range ∧
      read false "* 5,-3-2,-1 * -4 *" =
        .error (.refused (range.clash (some field.name) (schedule.get field).chars)) := by
  intro schedule
  have short : schedule.Short := fun field => by cases field <;> decide
  have negative : ¬ schedule.Nonneg := fun nonneg =>
    absurd (nonneg .month ⟨-4, -4⟩ List.mem_cons_self) (by decide)
  exact ⟨short, negative, (read_text_iff schedule short).2.1 negative⟩

end Schedule

end TimeGate
