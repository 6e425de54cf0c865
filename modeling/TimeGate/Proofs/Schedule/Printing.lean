import TimeGate.Proofs.Schedule.Reading

/-! What printed schedules look like. Numerals, dashes, commas and blanks never get into each other's
way, with one exception: the dash of a negative bound looks like the dash of a range. A printed text
still determines what was printed. -/

set_option autoImplicit false

namespace TimeGate

open TimeGate.Decimal TimeGate.Text TimeGate.Traversal

namespace Decimal

/-- What a signed number adds to the segments between dashes: a sign leaves an empty one behind. -/
def segments (n : Int) : List (List Char) :=
  if n < 0 then [[], digits n.natAbs] else [digits n.natAbs]

theorem pieces_signedDigits (n : Int) : pieces '-' (signedDigits n) = segments n := by
  have plain : '-' ∉ digits n.natAbs := (numeral_digits _).not_mem (by decide)
  by_cases negative : n < 0
  · rw [signedDigits_of_neg negative, segments, if_pos negative, pieces, if_pos rfl,
      pieces_of_not_mem plain]
  · rw [signedDigits_of_nonneg (Int.not_lt.mp negative), segments, if_neg negative,
      pieces_of_not_mem plain]

theorem length_segments (n : Int) : (segments n).length = if n < 0 then 2 else 1 := by
  unfold segments
  split <;> rfl

theorem segments_ne_nil (n : Int) : segments n ≠ [] := by
  unfold segments
  split <;> simp

/-- The first segments tell the number that starts them, whatever follows. -/
theorem segments_append_inj {n m : Int} {rest others : List (List Char)}
    (same : segments n ++ rest = segments m ++ others) : n = m ∧ rest = others := by
  have inhabited (k : Nat) : digits k ≠ [] := (numeral_digits k).1
  -- The signs agree, since only a sign makes the first segment empty.
  unfold segments at same
  by_cases left : n < 0 <;> by_cases right : m < 0
  · simp only [left, right, if_true, List.cons_append, List.nil_append, List.cons.injEq, true_and] at same
    have equal : n.natAbs = m.natAbs := digits_injective same.1
    exact ⟨by omega, same.2⟩
  · simp only [left, right, if_true, if_false, List.cons_append, List.cons.injEq] at same
    exact absurd same.1.symm (inhabited _)
  · simp only [left, right, if_true, if_false, List.cons_append, List.cons.injEq] at same
    exact absurd same.1 (inhabited _)
  · simp only [left, right, if_false, List.cons_append, List.nil_append, List.cons.injEq] at same
    have equal : n.natAbs = m.natAbs := digits_injective same.1
    exact ⟨by omega, same.2⟩

end Decimal

namespace Range

theorem pieces_chars (range : Range) :
    pieces '-' range.chars =
      segments range.first ++ if range.first = range.last then [] else segments range.last := by
  unfold chars isSingleton
  by_cases single : range.first = range.last
  · simp [single, pieces_signedDigits]
  · simp [single, pieces_append, pieces_signedDigits]

theorem chars_injective : Function.Injective Range.chars := by
  intro range other same
  have split := congrArg (pieces '-') same
  rw [pieces_chars, pieces_chars] at split
  obtain ⟨first, rest⟩ := segments_append_inj split
  -- What is left of the segments is empty exactly for a single value.
  have last : range.last = other.last := by
    by_cases left : range.first = range.last <;> by_cases right : other.first = other.last
    · exact left.symm.trans (first.trans right)
    · rw [if_pos left, if_neg right] at rest
      exact absurd rest.symm (segments_ne_nil _)
    · rw [if_neg left, if_pos right] at rest
      exact absurd rest (segments_ne_nil _)
    · rw [if_neg left, if_neg right] at rest
      exact (segments_append_inj (congrArg (· ++ []) rest)).1
  cases range; cases other
  exact congr (congrArg Range.mk first) last

theorem mem_chars {range : Range} {c : Char} (member : c ∈ range.chars) : c = '-' ∨ c.isDigit = true := by
  unfold chars at member
  split at member
  · exact mem_signedDigits member
  · rcases List.mem_append.mp member with start | stop
    · exact mem_signedDigits start
    · rcases List.mem_cons.mp stop with dash | stop
      · exact .inl dash
      · exact mem_signedDigits stop

theorem chars_ne_nil (range : Range) : range.chars ≠ [] := by
  unfold chars
  split <;> simp [signedDigits_ne_nil]

/-- Neither commas nor stars nor blanks occur in a printed range. -/
theorem not_mem_chars {range : Range} {c : Char} (dash : c ≠ '-') (digit : c.isDigit = false) :
    c ∉ range.chars := by
  intro member
  rcases mem_chars member with same | isDigit
  · exact dash same
  · rw [digit] at isDigit
    contradiction

end Range

namespace RangeSet

theorem split_chars (set : RangeSet) : Split ',' set.chars (set.ranges.map Range.chars) where
  inhabited := by simp [ranges]
  free part member := by
    obtain ⟨range, -, rfl⟩ := List.mem_map.mp member
    exact Range.not_mem_chars (by decide) (by decide)
  joins := rfl

theorem star_not_mem (set : RangeSet) : ['*'] ∉ set.ranges.map Range.chars := by
  intro member
  obtain ⟨range, -, same⟩ := List.mem_map.mp member
  have star : '*' ∈ range.chars := by rw [same]; exact List.mem_cons_self
  exact Range.not_mem_chars (by decide) (by decide) star

end RangeSet

namespace FieldSpec

theorem chars_injective : Function.Injective FieldSpec.chars := by
  intro spec other same
  have split := congrArg (pieces ',') same
  cases spec with
  | any =>
    cases other with
    | any => rfl
    | union set =>
      rw [chars, chars, split_iff.mp set.split_chars] at split
      exact absurd (split ▸ List.mem_cons_self) set.star_not_mem
  | union set =>
    cases other with
    | any =>
      rw [chars, chars, split_iff.mp set.split_chars] at split
      exact absurd (split ▸ List.mem_cons_self) set.star_not_mem
    | union others =>
      rw [chars, chars, split_iff.mp set.split_chars, split_iff.mp others.split_chars] at split
      exact eq_union_of_ranges (List.map_injective_iff.mpr Range.chars_injective split)

theorem chars_ne_nil (spec : FieldSpec) : spec.chars ≠ [] := by
  cases spec with
  | any => exact List.cons_ne_nil _ _
  | union set => exact joined_ne_nil set.first.chars_ne_nil

theorem solid_chars {spec : FieldSpec} {c : Char} (member : c ∈ spec.chars) : isBlank c = false := by
  cases spec with
  | any =>
    cases List.mem_singleton.mp member
    decide
  | union set =>
    rcases mem_joined member with comma | ⟨part, found, inside⟩
    · cases List.mem_singleton.mp comma
      decide
    · obtain ⟨range, -, rfl⟩ := List.mem_map.mp found
      rcases Range.mem_chars inside with rfl | digit
      · decide
      · exact isBlank_of_isDigit digit

end FieldSpec

namespace Schedule

theorem spaced_chars (schedule : Schedule) :
    Spaced schedule.chars (schedule.toList.map FieldSpec.chars) := by
  apply spaced_joined (by decide)
  · intro token member
    obtain ⟨spec, -, rfl⟩ := List.mem_map.mp member
    exact spec.chars_ne_nil
  · intro token member c inside
    obtain ⟨spec, -, rfl⟩ := List.mem_map.mp member
    exact FieldSpec.solid_chars inside

theorem text_injective : Function.Injective Schedule.text := by
  intro schedule other same
  have chars : schedule.chars = other.chars := String.ofList_injective same
  have spaced := schedule.spaced_chars
  rw [chars] at spaced
  have tokens := spaced.unique other.spaced_chars
  exact PerField.toList_injective (List.map_injective_iff.mpr FieldSpec.chars_injective tokens)

end Schedule

end TimeGate
