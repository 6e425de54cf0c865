import TimeGate.Proofs.Schedule.Meaning

/-! Ranges as walks around a domain. Walking goes up one value at a time and from the highest value on to
the lowest. A range with legal bounds holds exactly the legal values that are met on the way from its start
to its end, although admission compares with the two bounds alone and knows no domain. -/

set_option autoImplicit false

namespace TimeGate

namespace Domain

variable {domain : Domain} {first last value other : Int}

/-- How many legal values there are. -/
def size (domain : Domain) : Int := domain.high - domain.low + 1

/-- The value that follows another. The lowest follows the highest. -/
def next (domain : Domain) (value : Int) : Int :=
  if value = domain.high then domain.low else value + 1

/-- What is met on the way from one value to another, both of them included. -/
inductive Meets (domain : Domain) (first last : Int) : Int → Prop where
  | start : Meets domain first last first
  | step {value : Int} : Meets domain first last value → value ≠ last →
      Meets domain first last (domain.next value)

/-- How many steps lead from one value to another. -/
def distance (domain : Domain) (first value : Int) : Int := (value - first) % domain.size

/-! ## Steps and distances -/

theorem Holds.next (legal : domain.Holds value) : domain.Holds (domain.next value) := by
  unfold Holds Domain.next at *
  split <;> omega

theorem exists_next_eq (legal : domain.Holds value) :
    ∃ before, domain.Holds before ∧ domain.next before = value := by
  unfold Holds at legal
  by_cases lowest : value = domain.low
  · refine ⟨domain.high, ⟨by omega, by omega⟩, ?_⟩
    rw [Domain.next, if_pos rfl, lowest]
  · refine ⟨value - 1, ⟨by omega, by omega⟩, ?_⟩
    rw [Domain.next, if_neg (by omega)]
    omega

/-- Between legal values the remainder adds the size of the domain once, or not at all. -/
theorem distance_eq (start : domain.Holds first) (legal : domain.Holds value) :
    domain.distance first value =
      if first ≤ value then value - first else value - first + domain.size := by
  unfold Holds at start legal
  unfold distance
  split
  · exact Int.emod_eq_of_lt (by omega) (by unfold size; omega)
  · rw [← Int.add_emod_right]
    exact Int.emod_eq_of_lt (by unfold size; omega) (by omega)

theorem distance_self : domain.distance first first = 0 := by
  rw [distance, Int.sub_self, Int.zero_emod]

theorem distance_nonneg (start : domain.Holds first) (legal : domain.Holds value) :
    0 ≤ domain.distance first value := by
  rw [distance_eq start legal]
  unfold Holds size at *
  split <;> omega

theorem eq_of_distance_eq (start : domain.Holds first) (legal : domain.Holds value)
    (otherLegal : domain.Holds other) (same : domain.distance first value = domain.distance first other) :
    value = other := by
  rw [distance_eq start legal, distance_eq start otherLegal] at same
  unfold Holds size at *
  split at same <;> split at same <;> omega

/-- A step leads one value further, unless it leads back to where the walk began. -/
theorem distance_next (start : domain.Holds first) (legal : domain.Holds value) :
    domain.next value = first ∨
      domain.distance first (domain.next value) = domain.distance first value + 1 := by
  rw [distance_eq start legal, distance_eq start legal.next]
  unfold Holds size Domain.next at *
  split <;> split <;> split <;> omega

/-! ## Walks -/

theorem Meets.holds (start : domain.Holds first) (meets : domain.Meets first last value) :
    domain.Holds value := by
  induction meets with
  | start => exact start
  | step _ _ ih => exact ih.next

theorem Meets.distance_le (start : domain.Holds first) (stop : domain.Holds last)
    (meets : domain.Meets first last value) :
    domain.distance first value ≤ domain.distance first last := by
  induction meets with
  | start => rw [distance_self]; exact distance_nonneg start stop
  | @step value before goesOn ih =>
    have legal := before.holds start
    -- A step that does not lead back to the start is taken before the last value is reached.
    rcases distance_next start legal with again | further
    · rw [again, distance_self]; exact distance_nonneg start stop
    · have short : domain.distance first value ≠ domain.distance first last :=
        fun same => goesOn (eq_of_distance_eq start legal stop same)
      omega

/-- Every value that is not too far is met: the induction is on its distance. -/
theorem meets_of_distance_le (start : domain.Holds first) (stop : domain.Holds last) (steps : Nat)
    (legal : domain.Holds value) (away : domain.distance first value = steps)
    (within : domain.distance first value ≤ domain.distance first last) :
    domain.Meets first last value := by
  induction steps generalizing value with
  | zero =>
    rw [eq_of_distance_eq start legal start (away.trans distance_self.symm)]
    exact .start
  | succ steps ih =>
    obtain ⟨before, earlier, rfl⟩ := exists_next_eq legal
    rcases distance_next start earlier with again | further
    · rw [again]
      exact .start
    · have near : domain.distance first before = steps := by omega
      have goesOn : before ≠ last := by
        rintro rfl
        omega
      exact .step (ih earlier near (by omega)) goesOn

theorem meets_iff (start : domain.Holds first) (stop : domain.Holds last) (legal : domain.Holds value) :
    domain.Meets first last value ↔ domain.distance first value ≤ domain.distance first last := by
  refine ⟨Meets.distance_le start stop, fun within => ?_⟩
  have away := Int.toNat_of_nonneg (distance_nonneg start legal)
  exact meets_of_distance_le start stop _ legal away.symm within

end Domain

/-- The three shapes of a range are one comparison of distances. -/
theorem Range.admits_iff_distance {domain : Domain} {range : Range} {value : Int}
    (start : domain.Holds range.first) (stop : domain.Holds range.last) (legal : domain.Holds value) :
    range.admits value = true ↔
      domain.distance range.first value ≤ domain.distance range.first range.last := by
  rw [Range.admits_iff, Domain.distance_eq start legal, Domain.distance_eq start stop]
  unfold Between Domain.Holds Domain.size at *
  split <;> split <;> omega

theorem Range.admits_iff_meets {domain : Domain} {range : Range} {value : Int}
    (start : domain.Holds range.first) (stop : domain.Holds range.last) (legal : domain.Holds value) :
    range.admits value = true ↔ domain.Meets range.first range.last value := by
  rw [Range.admits_iff_distance start stop legal, Domain.meets_iff start stop legal]

/-- The token has a piece that writes a range on whose way around the domain the value is met. -/
def Grammar.TokenMeets (domain : Domain) (token : List Char) (value : Int) : Prop :=
  ∃ parts piece range, Text.Split ',' token parts ∧ piece ∈ parts ∧ Piece piece range ∧
    domain.Meets range.first range.last value

namespace FieldSpec

open TimeGate.Grammar TimeGate.Text TimeGate.Traversal

theorem admits_iff_tokenMeets {domain : Domain} {token : List Char} {set : RangeSet} {value : Int}
    (written : Token token (.union set))
    (bounds : ∀ range ∈ set.ranges, domain.Holds range.first ∧ domain.Holds range.last)
    (legal : domain.Holds value) :
    (FieldSpec.union set).admits value = true ↔ TokenMeets domain token value := by
  cases written with
  | @union parts _ split plain related =>
    rw [FieldSpec.admits, List.any_eq_true]
    constructor
    · rintro ⟨range, member, admits⟩
      obtain ⟨start, stop⟩ := bounds range member
      obtain ⟨piece, found, writes⟩ := exists_related related.flip member
      exact ⟨parts, piece, range, split, found, writes, (Range.admits_iff_meets start stop legal).mp admits⟩
    · rintro ⟨others, piece, range, otherSplit, found, writes, meets⟩
      rw [otherSplit.unique split] at found
      obtain ⟨other, member, again⟩ := exists_related related found
      obtain rfl := piece_unique writes again
      obtain ⟨start, stop⟩ := bounds range member
      exact ⟨range, member, (Range.admits_iff_meets start stop legal).mpr meets⟩

/-- In any domain, a range between legal bounds holds the legal values that are no further from its start
than its end is, counting around the domain; they are those met when walking from start to end. A part that
is read strictly admits the legal values that the walk of one of its pieces meets. -/
theorem wrapping_walks_around (domain : Domain) :
    (∀ first last value, domain.Holds first → domain.Holds last → domain.Holds value →
      ((Range.mk first last).admits value = true ↔
        (value - first) % (domain.high - domain.low + 1) ≤
          (last - first) % (domain.high - domain.low + 1)) ∧
      ((Range.mk first last).admits value = true ↔ domain.Meets first last value)) ∧
    ∀ part set value, read (some domain) true part = .ok (.union set) → domain.Holds value →
      ((FieldSpec.union set).admits value = true ↔ TokenMeets domain part.toList value) := by
  refine ⟨fun first last value start stop legal => ⟨?_, ?_⟩, fun part set value accepted legal => ?_⟩
  · exact Range.admits_iff_distance start stop legal
  · exact Range.admits_iff_meets start stop legal
  · obtain ⟨written, bounds⟩ := readChars_eq_ok_iff.mp accepted
    exact admits_iff_tokenMeets written (fun range member => bounds range member rfl domain rfl) legal

example : (read (some ⟨"lane", "lane", 2, 9⟩) true "8-3,05").toOption.map (fun spec =>
    [2, 3, 4, 5, 6, 7, 8, 9].filter spec.admits) = some [2, 3, 5, 8, 9] := by decide +kernel

end FieldSpec

end TimeGate
