import TimeGate.Calendar

/-! The calendar as one day after the other. Stepping from the first of January of year 1 reaches every
date; the numbering of dates counts the steps, and the date of a number undoes the numbering. -/

set_option autoImplicit false

namespace TimeGate.Calendar

/-- A month of a year, and a day of that month. -/
structure IsDate (year month day : Nat) : Prop where
  yearPos : 1 ≤ year
  monthPos : 1 ≤ month
  monthLe : month ≤ 12
  dayPos : 1 ≤ day
  dayLe : day ≤ daysInMonth year month

/-- The date one day later. -/
def tomorrow : Nat × Nat × Nat → Nat × Nat × Nat
  | (year, month, day) =>
    if day < daysInMonth year month then (year, month, day + 1)
    else if month < 12 then (year, month + 1, 1)
    else (year + 1, 1, 1)

/-- The date that comes so many days after the first of January of year 1. -/
def dateAfter : Nat → Nat × Nat × Nat
  | 0 => (1, 1, 1)
  | days + 1 => tomorrow (dateAfter days)

/-! ## Counting -/

theorem daysInMonth_bounds (year month : Nat) :
    1 ≤ daysInMonth year month ∧ daysInMonth year month ≤ 31 := by
  unfold daysInMonth
  split
  · split <;> decide
  all_goals decide

theorem daysBeforeMonth_succ {month : Nat} (year : Nat) (pos : 1 ≤ month) :
    daysBeforeMonth year (month + 1) = daysBeforeMonth year month + daysInMonth year month := by
  match month, pos with
  | month + 1, _ => rfl

theorem daysBeforeMonth_thirteen (year : Nat) : daysBeforeMonth year 13 = daysInYear year := by
  by_cases leap : isLeap year = true <;> simp [daysBeforeMonth, daysInMonth, daysInYear, leap]

theorem daysBeforeMonth_mono (year : Nat) {month other : Nat} (pos : 1 ≤ month) (le : month ≤ other) :
    daysBeforeMonth year month ≤ daysBeforeMonth year other := by
  obtain ⟨gap, rfl⟩ := Nat.exists_eq_add_of_le le
  induction gap with
  | zero => exact Nat.le_refl _
  | succ gap ih =>
    rw [← Nat.add_assoc, daysBeforeMonth_succ year (by omega)]
    exact Nat.le_trans (ih (Nat.le_add_right _ _)) (Nat.le_add_right _ _)

theorem daysInYear_eq (year : Nat) :
    daysInYear year = 365 + if year % 4 = 0 ∧ (year % 100 ≠ 0 ∨ year % 400 = 0) then 1 else 0 := by
  have leap_iff : isLeap year = true ↔ year % 4 = 0 ∧ (year % 100 ≠ 0 ∨ year % 400 = 0) := by
    simp [isLeap]
  unfold daysInYear
  simp only [leap_iff]
  split <;> rfl

theorem daysBeforeYear_eq (past : Nat) :
    daysBeforeYear (past + 1) = 365 * past + past / 4 - past / 100 + past / 400 := rfl

theorem daysBeforeYear_succ {year : Nat} (pos : 1 ≤ year) :
    daysBeforeYear (year + 1) = daysBeforeYear year + daysInYear year := by
  obtain ⟨past, rfl⟩ := Nat.exists_eq_add_of_le' pos
  have fours : (past + 1) / 4 = past / 4 + if (past + 1) % 4 = 0 then 1 else 0 := by
    split <;> omega
  have centuries : (past + 1) / 100 = past / 100 + if (past + 1) % 100 = 0 then 1 else 0 := by
    split <;> omega
  have cycles : (past + 1) / 400 = past / 400 + if (past + 1) % 400 = 0 then 1 else 0 := by
    split <;> omega
  have fewer : past / 100 ≤ past / 4 := by omega
  have inCentury : (past + 1) % 100 = 0 → (past + 1) % 4 = 0 := by omega
  have inCycle : (past + 1) % 400 = 0 → (past + 1) % 100 = 0 := by omega
  rw [daysInYear_eq, daysBeforeYear_eq, daysBeforeYear_eq, fours, centuries, cycles]
  -- From here on the quotients are counters, and the three conditions say which of them go up.
  generalize past / 4 = x at *
  generalize past / 100 = y at *
  generalize past / 400 = z at *
  by_cases four : (past + 1) % 4 = 0 <;> by_cases century : (past + 1) % 100 = 0 <;>
    by_cases cycle : (past + 1) % 400 = 0 <;> simp_all <;> omega

theorem daysBeforeYear_mono {year other : Nat} (pos : 1 ≤ year) (le : year ≤ other) :
    daysBeforeYear year ≤ daysBeforeYear other := by
  obtain ⟨gap, rfl⟩ := Nat.exists_eq_add_of_le le
  induction gap with
  | zero => exact Nat.le_refl _
  | succ gap ih =>
    rw [← Nat.add_assoc, daysBeforeYear_succ (by omega)]
    exact Nat.le_trans (ih (Nat.le_add_right _ _)) (Nat.le_add_right _ _)

/-- A date falls short of the next year. -/
theorem IsDate.inYear {year month day : Nat} (date : IsDate year month day) :
    daysBeforeMonth year month + day ≤ daysInYear year := by
  have next := daysBeforeMonth_succ year date.monthPos
  have whole : daysBeforeMonth year (month + 1) ≤ daysBeforeMonth year 13 :=
    daysBeforeMonth_mono year (by omega) (Nat.succ_le_succ date.monthLe)
  have last := daysBeforeMonth_thirteen year
  have dayLe := date.dayLe
  omega

/-! ## One day later -/

theorem isDate_first : IsDate 1 1 1 := ⟨by decide, by decide, by decide, by decide, by decide⟩

theorem IsDate.tomorrow {year month day : Nat} (date : IsDate year month day) :
    ∃ nextYear nextMonth nextDay, tomorrow (year, month, day) = (nextYear, nextMonth, nextDay) ∧
      IsDate nextYear nextMonth nextDay ∧
      dayNumber nextYear nextMonth nextDay = dayNumber year month day + 1 := by
  have dayLe := date.dayLe
  have monthLe := date.monthLe
  unfold Calendar.tomorrow
  -- The last day of a month makes way for the first of the next, and that of December for a new year.
  by_cases inMonth : day < daysInMonth year month
  · refine ⟨year, month, day + 1, if_pos inMonth, ?_, rfl⟩
    exact ⟨date.yearPos, date.monthPos, date.monthLe, by omega, inMonth⟩
  · have lastDay : day = daysInMonth year month := by omega
    have next := daysBeforeMonth_succ year date.monthPos
    by_cases inYear : month < 12
    · refine ⟨year, month + 1, 1, by simp only [if_neg inMonth, if_pos inYear], ?_, ?_⟩
      · exact ⟨date.yearPos, by omega, inYear, Nat.le_refl 1, (daysInMonth_bounds _ _).1⟩
      · unfold dayNumber
        omega
    · obtain rfl : month = 12 := by omega
      refine ⟨year + 1, 1, 1, by simp only [if_neg inMonth, if_neg inYear], ?_, ?_⟩
      · exact ⟨by omega, Nat.le_refl 1, by decide, Nat.le_refl 1, (daysInMonth_bounds _ _).1⟩
      · have whole : daysBeforeMonth year 13 = daysBeforeMonth year 12 + daysInMonth year 12 := next
        rw [daysBeforeMonth_thirteen] at whole
        have wholeYear := daysBeforeYear_succ date.yearPos
        have none : daysBeforeMonth (year + 1) 1 = 0 := rfl
        unfold dayNumber
        omega

/-- The numbering of dates counts the days from the first one, which is number 1. -/
theorem dayNumber_dateAfter (days : Nat) :
    ∃ year month day, dateAfter days = (year, month, day) ∧ IsDate year month day ∧
      dayNumber year month day = days + 1 := by
  induction days with
  | zero => exact ⟨1, 1, 1, rfl, isDate_first, rfl⟩
  | succ days ih =>
    obtain ⟨year, month, day, same, date, number⟩ := ih
    obtain ⟨nextYear, nextMonth, nextDay, next, isDate, nextNumber⟩ := date.tomorrow
    exact ⟨nextYear, nextMonth, nextDay, by rw [dateAfter, same, next], isDate, by omega⟩

/-! ## The date of a number -/

/-- Whole cycles are taken off the days before a year, and nothing is left but the day of the year. -/
theorem yearOfDay_daysBeforeYear {year day : Nat} (pos : 1 ≤ year) (inYear : day < daysInYear year) :
    yearOfDay (daysBeforeYear year + day + 1) = (year, day) := by
  obtain ⟨past, rfl⟩ := Nat.exists_eq_add_of_le' pos
  obtain ⟨cycles, centuries, fours, years, digits, fewCenturies, fewFours, fewYears⟩ :
      ∃ cycles centuries fours years, past = 400 * cycles + 100 * centuries + 4 * fours + years ∧
        centuries < 4 ∧ fours < 25 ∧ years < 4 :=
    ⟨past / 400, past % 400 / 100, past % 100 / 4, past % 4, by omega⟩
  -- A leap year ends a group of four, and that group may end a century only at the end of a cycle.
  have short : day < 365 + if years = 3 ∧ (fours ≠ 24 ∨ centuries = 3) then 1 else 0 := by
    rw [daysInYear_eq] at inYear
    split at inYear <;> split <;> omega
  have before : daysBeforeYear (past + 1) =
      146097 * cycles + 36524 * centuries + 1461 * fours + 365 * years := by
    simp only [daysBeforeYear]
    omega
  have inCycle : (146097 * cycles + 36524 * centuries + 1461 * fours + 365 * years + day) % 146097 =
      36524 * centuries + 1461 * fours + 365 * years + day := by
    split at short <;> omega
  have wholeCycles :
      (146097 * cycles + 36524 * centuries + 1461 * fours + 365 * years + day) / 146097 = cycles := by
    split at short <;> omega
  have wholeCenturies :
      min 3 ((36524 * centuries + 1461 * fours + 365 * years + day) / 36524) = centuries := by
    split at short <;> omega
  have inCentury : 36524 * centuries + 1461 * fours + 365 * years + day - centuries * 36524 =
      1461 * fours + (365 * years + day) := by omega
  have wholeFours : (1461 * fours + (365 * years + day)) / 1461 = fours := by
    split at short <;> omega
  have inFour : (1461 * fours + (365 * years + day)) % 1461 = 365 * years + day := by
    split at short <;> omega
  have wholeYears : min 3 ((365 * years + day) / 365) = years := by
    split at short <;> omega
  simp only [yearOfDay, before, Nat.add_sub_cancel, inCycle, wholeCycles, wholeCenturies, inCentury,
    wholeFours, inFour, wholeYears]
  rw [digits]
  exact Prod.ext (by omega) (by dsimp only; omega)

/-- The walk over the months ends in the month that is `gap` months on, given the days up to there. -/
theorem monthOfDay_walk {year gap steps month offset : Nat} (enough : gap ≤ steps) (pos : 1 ≤ month)
    (inside : offset < daysInMonth year (month + gap)) :
    monthOfDay year steps month
        (daysBeforeMonth year (month + gap) - daysBeforeMonth year month + offset) =
      (month + gap, offset + 1) := by
  induction gap generalizing steps month with
  | zero =>
    rw [Nat.add_zero] at inside ⊢
    rw [Nat.sub_self, Nat.zero_add]
    cases steps with
    | zero => rfl
    | succ steps => rw [monthOfDay, if_pos inside]
  | succ gap ih =>
    obtain ⟨fewer, rfl⟩ : ∃ fewer, steps = fewer + 1 := ⟨steps - 1, by omega⟩
    have shifted : month + (gap + 1) = month + 1 + gap := by omega
    rw [shifted] at inside ⊢
    have next := daysBeforeMonth_succ year pos
    have passed := daysBeforeMonth_mono year (by omega) (Nat.le_add_right (month + 1) gap)
    -- The day lies beyond this month, so the walk goes on with what the month leaves of it.
    have later := @ih fewer (month + 1) (by omega) (by omega) inside
    rw [monthOfDay, if_neg (by omega), ← later]
    congr 1
    omega

theorem civil_dayNumber {year month day : Nat} (date : IsDate year month day) :
    civil (dayNumber year month day) = (year, month, day) := by
  have monthLe := date.monthLe
  obtain ⟨offset, rfl⟩ := Nat.exists_eq_add_of_le' date.dayPos
  obtain ⟨gap, rfl⟩ := Nat.exists_eq_add_of_le date.monthPos
  have inYear := date.inYear
  have number : dayNumber year (1 + gap) (offset + 1) =
      daysBeforeYear year + (daysBeforeMonth year (1 + gap) + offset) + 1 := by
    unfold dayNumber
    omega
  have early : daysBeforeMonth year (1 + gap) + offset < daysInYear year := by omega
  have place := yearOfDay_daysBeforeYear date.yearPos early
  have few : gap ≤ 11 := by omega
  have walked := monthOfDay_walk few (Nat.le_refl 1) (Nat.lt_of_succ_le date.dayLe)
  have none : daysBeforeMonth year 1 = 0 := rfl
  rw [none, Nat.sub_zero] at walked
  rw [civil, number, place]
  simp only [walked]

/-- Every number has the date that stepping day by day arrives at. -/
theorem civil_succ (days : Nat) : civil (days + 1) = dateAfter days := by
  obtain ⟨year, month, day, same, date, number⟩ := dayNumber_dateAfter days
  rw [same, ← number, civil_dayNumber date]

theorem dateAfter_dayNumber {year month day : Nat} (date : IsDate year month day) :
    dateAfter (dayNumber year month day - 1) = (year, month, day) := by
  have pos : 1 ≤ dayNumber year month day := Nat.le_trans date.dayPos (Nat.le_add_left _ _)
  rw [← civil_succ, Nat.sub_add_cancel pos, civil_dayNumber date]

/-- The years up to a given one hold exactly the days before the next. -/
theorem dateAfter_year_le_iff (days year : Nat) :
    (dateAfter days).1 ≤ year ↔ days < daysBeforeYear (year + 1) := by
  obtain ⟨reached, month, day, same, date, number⟩ := dayNumber_dateAfter days
  have inYear := date.inYear
  have dayPos := date.dayPos
  have next := daysBeforeYear_succ date.yearPos
  rw [same]
  unfold dayNumber at number
  rcases Nat.lt_or_ge year reached with beyond | within
  · have passed : daysBeforeYear (year + 1) ≤ daysBeforeYear reached := daysBeforeYear_mono (by omega) beyond
    dsimp only
    omega
  · have passed : daysBeforeYear (reached + 1) ≤ daysBeforeYear (year + 1) :=
      daysBeforeYear_mono (by omega) (Nat.succ_le_succ within)
    dsimp only
    omega

end TimeGate.Calendar
