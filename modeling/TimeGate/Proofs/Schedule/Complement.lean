import TimeGate.Proofs.Schedule.Strictness

/-! Complements of ranges. What a range leaves out starts right behind its end and ends right before its
start. That is a range again, and of another shape, unless the range goes full circle and leaves nothing
out. -/

set_option autoImplicit false

namespace TimeGate.Range

/-- How the bounds of a range stand to each other. -/
inductive Shape where
  | single
  | ascending
  | wrapping
  deriving DecidableEq, Repr

def shape (range : Range) : Shape :=
  if range.isSingleton then .single else if range.wraps then .wrapping else .ascending

/-- From right behind the end to right before the start. -/
def complement (range : Range) : Range := ⟨range.last + 1, range.first - 1⟩

/-- The range ends right before its start, so that no gap is left on the way around. -/
def IsCircle (range : Range) : Prop := range.first = range.last + 1

variable {range other : Range} {value : Int}

@[simp] theorem first_complement : range.complement.first = range.last + 1 := rfl

@[simp] theorem last_complement : range.complement.last = range.first - 1 := rfl

@[simp] theorem complement_complement : range.complement.complement = range := by
  simp [complement]

theorem isCircle_complement_iff : range.complement.IsCircle ↔ range.IsCircle := by
  rw [IsCircle, IsCircle, first_complement, last_complement]
  omega

theorem complement_of_isCircle (circle : range.IsCircle) : range.complement = range := by
  obtain ⟨first, last⟩ := range
  obtain rfl : first = last + 1 := circle
  simp [complement]

/-! ## Shapes -/

theorem shape_eq_wrapping_iff : range.shape = .wrapping ↔ range.last < range.first := by
  unfold shape isSingleton wraps
  by_cases single : range.first = range.last
  · simp [single]
  · by_cases descending : range.last < range.first <;> simp [single, descending]

/-- Of a range with a gap and its complement, exactly one wraps. -/
theorem shape_complement_eq_wrapping_iff (gap : ¬range.IsCircle) :
    range.complement.shape = .wrapping ↔ range.shape ≠ .wrapping := by
  rw [ne_eq, shape_eq_wrapping_iff, shape_eq_wrapping_iff, first_complement, last_complement]
  unfold IsCircle at gap
  omega

theorem shape_complement_ne_iff (range : Range) :
    range.complement.shape ≠ range.shape ↔ ¬range.IsCircle := by
  constructor
  · intro apart circle
    exact apart (congrArg shape (complement_of_isCircle circle))
  · intro gap same
    have wraps := shape_complement_eq_wrapping_iff gap
    rw [same] at wraps
    exact iff_not_self wraps

/-! ## What the complement admits -/

theorem admits_iff_of_le (ahead : range.first ≤ range.last) :
    range.admits value = true ↔ range.first ≤ value ∧ value ≤ range.last := by
  rw [admits_iff, Between]
  omega

theorem admits_iff_of_lt (wraps : range.last < range.first) :
    range.admits value = true ↔ range.first ≤ value ∨ value ≤ range.last := by
  rw [admits_iff, Between]
  omega

theorem admits_complement_of_le (ahead : range.first ≤ range.last) (value : Int) :
    range.complement.admits value = !range.admits value := by
  have wraps : range.complement.last < range.complement.first := by
    rw [first_complement, last_complement]
    omega
  rw [Bool.eq_iff_iff, Bool.not_eq_true', ← Bool.not_eq_true, admits_iff_of_le ahead,
    admits_iff_of_lt wraps, first_complement, last_complement]
  omega

theorem admits_complement (gap : ¬range.IsCircle) (value : Int) :
    range.complement.admits value = !range.admits value := by
  by_cases wraps : range.last < range.first
  · -- Here the complement is the one that does not wrap, and the range is the complement of that.
    have ahead : range.complement.first ≤ range.complement.last := by
      rw [first_complement, last_complement]
      unfold IsCircle at gap
      omega
    have dual := admits_complement_of_le ahead value
    rw [complement_complement] at dual
    rw [dual, Bool.not_not]
  · exact admits_complement_of_le (Int.not_lt.mp wraps) value

theorem admits_of_isCircle (circle : range.IsCircle) (value : Int) : range.admits value = true := by
  unfold IsCircle at circle
  rw [admits_iff_of_lt (by omega)]
  omega

theorem not_admits_behind (gap : ¬range.IsCircle) : range.admits (range.last + 1) = false := by
  have left : range.complement.admits (range.last + 1) = true := range.complement.admits_first
  rw [admits_complement gap] at left
  simpa using left

theorem forall_admits_iff : (∀ value, range.admits value = true) ↔ range.IsCircle := by
  refine ⟨fun all => ?_, admits_of_isCircle⟩
  by_contra gap
  exact absurd (all _) (Bool.eq_false_iff.mp (not_admits_behind gap))

theorem admits_some_and_leaves_some_iff (range : Range) :
    (∃ value, range.admits value = true) ∧ (∃ value, range.admits value = false) ↔ ¬range.IsCircle := by
  constructor
  · rintro ⟨-, value, left⟩ circle
    exact absurd (admits_of_isCircle circle value) (Bool.eq_false_iff.mp left)
  · intro gap
    exact ⟨⟨range.first, range.admits_first⟩, range.last + 1, not_admits_behind gap⟩

/-! ## Bounds are told by what is admitted -/

theorem starts_iff :
    range.admits value = true ∧ range.admits (value - 1) = false ↔
      value = range.first ∧ ¬range.IsCircle := by
  rw [← Bool.not_eq_true, admits_iff, admits_iff]
  unfold Between IsCircle
  omega

theorem ends_iff :
    range.admits value = true ∧ range.admits (value + 1) = false ↔
      value = range.last ∧ ¬range.IsCircle := by
  rw [← Bool.not_eq_true, admits_iff, admits_iff]
  unfold Between IsCircle
  omega

/-- Apart from full circles, ranges that admit the same have the same bounds. -/
theorem eq_of_admits_eq (gap : ¬range.IsCircle)
    (same : ∀ value, range.admits value = other.admits value) : range = other := by
  have start := starts_iff.mpr ⟨rfl, gap⟩
  have stop := ends_iff.mpr ⟨rfl, gap⟩
  rw [same, same] at start stop
  cases range; cases other
  exact congrArg₂ Range.mk (starts_iff.mp start).1 (ends_iff.mp stop).1

theorem forall_admits_eq_not_iff :
    (∀ value, other.admits value = !range.admits value) ↔ ¬range.IsCircle ∧ other = range.complement := by
  constructor
  · intro negates
    have gap : ¬range.IsCircle := by
      intro circle
      have start := negates other.first
      rw [admits_first, admits_of_isCircle circle] at start
      contradiction
    refine ⟨gap, (eq_of_admits_eq (mt isCircle_complement_iff.mp gap) fun value => ?_).symm⟩
    rw [negates, admits_complement gap]
  · rintro ⟨gap, rfl⟩
    exact admits_complement gap

/-- Whatever its shape, a range leaves out exactly what the range from behind its end to before its start
admits, and no other range does that. The two are of different shapes. A range that starts right behind
its end is the only exception: it admits every value, while any other range admits some value and leaves
some out. -/
theorem complement_admits_what_is_left_out (first last : Int) :
    (∀ other : Range,
      (∀ value, other.admits value = !(Range.mk first last).admits value) ↔
        first ≠ last + 1 ∧ other = ⟨last + 1, first - 1⟩) ∧
    ((Range.mk (last + 1) (first - 1)).shape ≠ (Range.mk first last).shape ↔ first ≠ last + 1) ∧
    ((∀ value, (Range.mk first last).admits value = true) ↔ first = last + 1) ∧
    ((∃ value, (Range.mk first last).admits value = true) ∧
      (∃ value, (Range.mk first last).admits value = false) ↔ first ≠ last + 1) := by
  refine ⟨fun other => ?_, ?_, ?_, ?_⟩
  · exact forall_admits_eq_not_iff
  · exact shape_complement_ne_iff ⟨first, last⟩
  · exact forall_admits_iff
  · exact admits_some_and_leaves_some_iff ⟨first, last⟩

example : (Range.mk 9 6).complement = ⟨7, 8⟩ ∧ (Range.mk 9 7).complement.shape = .single ∧
    (Range.mk 9 8).complement.shape = .wrapping := by decide

end TimeGate.Range
