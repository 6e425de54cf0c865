import TimeGate.Proofs.Zone.Projection

/-! The offsets that a zone ever has, and the moments that it can show. A moment is shown if the second
in UTC and the second on the clocks of the zone both lie in the calendar. Away from the first and the last
year no offset of less than a day leads out of it. -/

set_option autoImplicit false

namespace TimeGate

open TimeGate.Calendar

/-! ## Offsets -/

theorem latestOffset_mem (current : Int) (changes : List Change) (second : Int) :
    latestOffset current changes second ∈ current :: changes.map Change.offset := by
  induction changes generalizing current with
  | nil => exact List.mem_singleton.mpr rfl
  | cons change rest ih =>
    rw [latestOffset]
    split
    · exact List.mem_cons_of_mem _ (ih change.offset)
    · exact List.mem_cons_self

def ZoneRule.offsets : ZoneRule → List Int
  | .steady offset => [offset]
  | .seasonal standard summer _ _ => [standard, summer]

theorem ZoneRule.offsetAt_mem (rule : ZoneRule) (second : Int) : rule.offsetAt second ∈ rule.offsets := by
  cases rule with
  | steady offset => exact List.mem_singleton.mpr rfl
  | seasonal standard summer start stop =>
    have either (isSummer : Bool) : (if isSummer then summer else standard) ∈ [standard, summer] := by
      cases isSummer <;> simp
    exact either _

namespace Zone

/-- Whatever the clocks of a zone are ever off UTC, before, between and after its changes. -/
def offsets (zone : Zone) : List Int :=
  zone.before :: zone.changes.map Change.offset ++ zone.rule.offsets

theorem offsetAt_mem (zone : Zone) (second : Int) : zone.offsetAt second ∈ zone.offsets := by
  have byRule := List.mem_append_right (zone.before :: zone.changes.map Change.offset)
    (zone.rule.offsetAt_mem second)
  unfold offsetAt
  split
  · exact byRule
  · split
    · exact byRule
    · exact List.mem_append_left _ (latestOffset_mem zone.before zone.changes second)

/-- The clocks are always less than a day off UTC. -/
def WithinDay (zone : Zone) : Prop :=
  ∀ second, -86400 < zone.offsetAt second ∧ zone.offsetAt second < 86400

end Zone

theorem Registry.exists_load_of_resolve {α : Type} [DecidableEq α] {registry : Registry} {fold : String → α}
    {name : String} {zone : Zone} (resolved : registry.resolve fold name = .ok zone) :
    ∃ key, registry.load key = .ok zone := by
  unfold resolve at resolved
  split at resolved
  · split at resolved
    · next key _ =>
      split at resolved
      · contradiction
      · exact ⟨key, resolved⟩
    · contradiction
  · exact ⟨name, resolved⟩

theorem Atlas.mem_zones {name : String} {zone : Zone} (found : resolve name = .ok zone) : zone ∈ zones := by
  obtain ⟨key, loaded⟩ := Registry.exists_load_of_resolve found
  obtain ⟨-, -, listed⟩ := Registry.load_ofZones_eq_ok_iff.mp loaded
  exact List.mem_of_find?_eq_some listed

theorem Atlas.withinDay {name : String} {zone : Zone} (found : resolve name = .ok zone) : zone.WithinDay := by
  -- Seconds are without end, but the offsets that they can have are listed.
  have recorded : ∀ zone ∈ zones, ∀ offset ∈ zone.offsets, -86400 < offset ∧ offset < 86400 := by
    decide +kernel
  exact fun second => recorded zone (mem_zones found) _ (zone.offsetAt_mem second)

/-! ## Moments that a zone can show -/

theorem DateTime.second_bounds (moment : DateTime) :
    ∃ days : Nat, dateAfter days = (moment.date.year, moment.date.month, moment.date.day) ∧
      ((days : Int) - 719163) * 86400 ≤ moment.second ∧ moment.second < ((days : Int) - 719160) * 86400 := by
  obtain ⟨days, date, instant⟩ := moment.instant_eq
  have clock := moment.clock.valid
  have offset := (moment.offset.getD Offset.utc).valid
  refine ⟨days, date, ?_⟩
  rw [DateTime.second, instant, microsPerSecond]
  omega

namespace Zone

/-- The moment lies in the years 1 to 9999, in UTC and on the clocks of the zone. -/
def Reaches (zone : Zone) (moment : DateTime) : Prop :=
  InYears moment.second ∧ InYears (zone.localSecond moment)

theorem components?_of_reaches {zone : Zone} {moment : DateTime} (reaches : zone.Reaches moment) :
    ∃ components, zone.components? moment = some components ∧ zone.Shows moment (some components) := by
  have shows := zone.shows_components? moment
  cases found : zone.components? moment with
  | some components => exact ⟨components, rfl, found ▸ shows⟩
  | none =>
    rw [found] at shows
    cases shows with
    | outside beyond => exact absurd reaches beyond

theorem components?_of_not_reaches {zone : Zone} {moment : DateTime} (beyond : ¬ zone.Reaches moment) :
    zone.components? moment = none := by
  have shows := zone.shows_components? moment
  cases found : zone.components? moment with
  | none => rfl
  | some components =>
    rw [found] at shows
    cases shows with
    | numbers inYears inYearsThere => exact absurd ⟨inYears, inYearsThere⟩ beyond

/-- A moment is at most two days from where its date puts it: one for its own offset, one for that of
the zone. -/
theorem WithinDay.reaches {zone : Zone} (within : zone.WithinDay) {moment : DateTime}
    (late : 2 ≤ moment.date.year) (early : moment.date.year ≤ 9998) : zone.Reaches moment := by
  obtain ⟨days, date, lower, upper⟩ := moment.second_bounds
  have offset := within moment.second
  have secondYear : 365 ≤ days := by
    by_contra short
    have first := (dateAfter_year_le_iff days 1).mpr (Nat.lt_of_not_le short)
    rw [date] at first
    exact absurd first (Nat.not_le_of_lt late)
  have lastButOne : days < 3651694 := by
    have bound : (dateAfter days).1 ≤ 9998 := by rw [date]; exact early
    exact (dateAfter_year_le_iff days 9998).mp bound
  have inYears (second : Int) (after : ((days : Int) - 719164) * 86400 ≤ second)
      (before : second < ((days : Int) - 719159) * 86400) : InYears second := by
    refine ⟨(second / 86400 + 719162).toNat, by omega, ?_⟩
    refine (dateAfter_year_le_iff _ lastYear).mpr ?_
    have beyond : daysBeforeYear (lastYear + 1) = 3652059 := rfl
    omega
  refine ⟨inYears _ (by omega) (by omega), inYears _ ?_ ?_⟩ <;>
  · rw [localSecond]
    omega

end Zone

end TimeGate
