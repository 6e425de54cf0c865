import TimeGate.Instant.Iso
import TimeGate.Proofs.Calendar
import TimeGate.Proofs.Schedule.Grammar
import TimeGate.Zone.Provider

/-! What a provider shows of a moment. The moment is a point on the time line; a zone moves it by its
offset there, and the calendar numbers are those of the day and the time of day so reached. Nothing
else of the moment counts, and nothing is shown outside the years 1 to 9999. -/

set_option autoImplicit false

namespace TimeGate

open TimeGate.Calendar

/-! ## Seconds and dates -/

/-- A count of seconds from 1970 that lies in the calendar, told by the date of its day. The first of
January 1970 comes 719162 days after the first day. -/
def InYears (second : Int) : Prop :=
  ∃ days : Nat, (days : Int) = second / 86400 + 719162 ∧ (dateAfter days).1 ≤ lastYear

theorem epochDay_cast : (epochDay : Int) = 719163 := rfl

theorem inCalendar_iff (second : Int) : inCalendar second = true ↔ InYears second := by
  -- The calendar ends with one and the same day, by its number and by the days before the year after.
  have lastNumber : (dayNumber lastYear 12 31 : Int) = 3652059 := rfl
  have beyond : daysBeforeYear (lastYear + 1) = 3652059 := rfl
  rw [inCalendar, Bool.and_eq_true, decide_eq_true_eq, decide_eq_true_eq]
  simp only [InYears, dateAfter_year_le_iff, lastNumber, beyond, epochDay_cast, secondsPerDay]
  constructor
  · rintro ⟨first, last⟩
    exact ⟨(second / 86400 + 719162).toNat, by omega, by omega⟩
  · rintro ⟨days, same, few⟩
    omega

theorem ofSeconds_eq {second : Int} {days year month day : Nat}
    (number : (days : Int) = second / 86400 + 719162) (date : dateAfter days = (year, month, day)) :
    Components.ofSeconds second =
      ⟨second / 60 % 60, second / 3600 % 24, day, month, (second / 86400 + 4) % 7⟩ := by
  have counted : (second / 86400 + 719163).toNat = days + 1 := by omega
  have week : (((days + 1) % 7 : Nat) : Int) = (second / 86400 + 4) % 7 := by omega
  simp only [Components.ofSeconds, secondsPerDay, epochDay_cast, counted, civil_succ, date, weekday, week]

/-! ## Moments -/

theorem Date.isDate (date : Date) : IsDate date.year date.month date.day where
  yearPos := date.valid.1
  monthPos := date.valid.2.2.1
  monthLe := date.valid.2.2.2.1
  dayPos := date.valid.2.2.2.2.1
  dayLe := date.valid.2.2.2.2.2

namespace DateTime

/-- The second of a moment in UTC, from 1970. A fraction of a second is cut off. -/
def second (moment : DateTime) : Int := moment.instant / microsPerSecond

/-- A moment lies where its date, its time of day and its offset put it. -/
theorem instant_eq (moment : DateTime) :
    ∃ days : Nat, dateAfter days = (moment.date.year, moment.date.month, moment.date.day) ∧
      moment.instant = (((days : Int) - 719162) * 86400 + moment.clock.hour * 3600 +
        moment.clock.minute * 60 + moment.clock.second) * 1000000 + moment.clock.micro -
          (moment.offset.getD Offset.utc).micros := by
  refine ⟨moment.date.dayNumber - 1, dateAfter_dayNumber moment.date.isDate, ?_⟩
  have pos : 1 ≤ moment.date.dayNumber := Nat.le_trans moment.date.isDate.dayPos (Nat.le_add_left _ _)
  have counted : ((moment.date.dayNumber - 1 : Nat) : Int) = moment.date.dayNumber - 1 := by omega
  simp only [instant, wallSeconds, Clock.seconds, epochDay_cast, secondsPerDay, microsPerSecond, counted]
  omega

theorem instant_aware (moment : DateTime) : moment.aware.instant = moment.instant := rfl

end DateTime

/-! ## Zones -/

namespace Zone

/-- The second that clocks in the zone show, counted as if they showed UTC. -/
def localSecond (zone : Zone) (moment : DateTime) : Int :=
  moment.second + zone.offsetAt moment.second

/-- The calendar numbers of a moment in a zone, by the date of the day that the clocks there show. The
first of January 1970 is a Thursday. -/
inductive Shows (zone : Zone) (moment : DateTime) : Option Components → Prop where
  | numbers {days year month day : Nat} : InYears moment.second → InYears (zone.localSecond moment) →
      (days : Int) = zone.localSecond moment / 86400 + 719162 → dateAfter days = (year, month, day) →
      IsDate year month day → Shows zone moment (some
        ⟨zone.localSecond moment / 60 % 60, zone.localSecond moment / 3600 % 24, day, month,
          (zone.localSecond moment / 86400 + 4) % 7⟩)
  | outside : ¬ (InYears moment.second ∧ InYears (zone.localSecond moment)) → Shows zone moment none

theorem components?_eq (zone : Zone) (moment : DateTime) :
    zone.components? moment =
      if inCalendar moment.second && inCalendar (zone.localSecond moment) then
        some (.ofSeconds (zone.localSecond moment))
      else none := rfl

theorem shows_components? (zone : Zone) (moment : DateTime) :
    zone.Shows moment (zone.components? moment) := by
  rw [components?_eq]
  have inside_iff : (inCalendar moment.second && inCalendar (zone.localSecond moment)) = true ↔
      InYears moment.second ∧ InYears (zone.localSecond moment) := by
    rw [Bool.and_eq_true, inCalendar_iff, inCalendar_iff]
  by_cases inside : InYears moment.second ∧ InYears (zone.localSecond moment)
  · rw [if_pos (inside_iff.mpr inside)]
    obtain ⟨days, counted, -⟩ := inside.2
    obtain ⟨year, month, day, same, date, -⟩ := dayNumber_dateAfter days
    rw [ofSeconds_eq counted same]
    exact .numbers inside.1 inside.2 counted same date
  · rw [if_neg (mt inside_iff.mp inside)]
    exact .outside inside

/-- Every number that is shown is a legal value of its field. -/
theorem Shows.holds {zone : Zone} {moment : DateTime} {components : Components}
    (shown : zone.Shows moment (some components)) (field : Field) :
    field.domain.Holds (components.get field) := by
  cases shown with
  | @numbers days year month day _ _ _ _ date =>
    have long := (daysInMonth_bounds year month).2
    have dayPos := date.dayPos
    have dayLe := date.dayLe
    have monthPos := date.monthPos
    have monthLe := date.monthLe
    cases field <;> simp only [Domain.Holds, Field.domain, PerField.get] <;> omega

theorem components?_congr (zone : Zone) {moment other : DateTime} (same : moment.instant = other.instant) :
    zone.components? moment = zone.components? other := by
  simp only [components?, same]

end Zone

/-! ## Providers -/

theorem Provider.knows_ofZones_iff {database : String → Except Registry.Fault Zone}
    {lookupNotices : String → List Notice} {name : String} :
    (ofZones database lookupNotices).knows name = .ok true ↔ ∃ zone, database name = .ok zone :=
  Registry.isZone_eq_true_iff

theorem Provider.project_ofZones {database : String → Except Registry.Fault Zone}
    {lookupNotices : String → List Notice} {name : String} {zone : Zone} (found : database name = .ok zone)
    (moment : DateTime) : (ofZones database lookupNotices).project name moment = zone.components? moment := by
  simp only [ofZones, found]
  rfl

theorem Atlas.provider_eq : Atlas.provider = Provider.ofZones Atlas.resolve Atlas.lookupNotices := rfl

/-- The provider of any database shows, in a zone that it knows, the local calendar at the instant of a
moment, or nothing where the instant or the local time is out of the calendar. The numbers are legal
values of their fields and depend on the instant alone, which a moment without an offset has from UTC.
The provider of the atlas is one of these. -/
theorem provider_shows_calendar (database : String → Except Registry.Fault Zone)
    (lookupNotices : String → List Notice) (name : String)
    (known : (Provider.ofZones database lookupNotices).knows name = .ok true) :
    let provider := Provider.ofZones database lookupNotices
    (∃ zone, database name = .ok zone ∧
      ∀ moment, zone.Shows moment (provider.project name moment)) ∧
    (∀ moment components, provider.project name moment = some components →
      ∀ field : Field, field.domain.Holds (components.get field)) ∧
    (∀ moment other : DateTime, moment.instant = other.instant →
      provider.project name moment = provider.project name other) ∧
    (∀ date clock, provider.project name ⟨date, clock, none⟩ =
      provider.project name ⟨date, clock, some Offset.utc⟩) ∧
    (∀ moment, provider.project name (Occasion.pinned moment).current = provider.project name moment) ∧
    (∀ moment : DateTime, ∃ days : Nat,
      dateAfter days = (moment.date.year, moment.date.month, moment.date.day) ∧
      moment.instant = (((days : Int) - 719162) * 86400 + moment.clock.hour * 3600 +
        moment.clock.minute * 60 + moment.clock.second) * 1000000 + moment.clock.micro -
          (moment.offset.getD Offset.utc).micros) ∧
    Atlas.provider = Provider.ofZones Atlas.resolve Atlas.lookupNotices := by
  intro provider
  obtain ⟨zone, found⟩ := Provider.knows_ofZones_iff.mp known
  have project_eq (moment : DateTime) : provider.project name moment = zone.components? moment :=
    Provider.project_ofZones found moment
  have same_instant (moment other : DateTime) (same : moment.instant = other.instant) :
      provider.project name moment = provider.project name other := by
    rw [project_eq, project_eq, zone.components?_congr same]
  refine ⟨⟨zone, found, fun moment => project_eq moment ▸ zone.shows_components? moment⟩, ?_, same_instant,
    fun date clock => same_instant _ _ rfl, fun moment => same_instant _ _ moment.instant_aware,
    DateTime.instant_eq, Atlas.provider_eq⟩
  intro moment components shown
  have view := zone.shows_components? moment
  rw [← project_eq, shown] at view
  exact view.holds

/-- Half past ten in the morning of the first of March, in a place of its own offset, is the night of
the leap day in Toronto. The name is spelled in small letters. -/
theorem provider_shows_leap_night :
    let moment : DateTime := ⟨⟨2024, 3, 1, by decide⟩, ⟨10, 29, 59, 500000, by decide⟩,
      some ⟨19800000000, by decide⟩⟩
    Atlas.provider.knows "america/toronto" = .ok true ∧
      (∃ zone, Atlas.resolve "america/toronto" = .ok zone ∧
        zone.Shows moment (Atlas.provider.project "america/toronto" moment)) ∧
      Atlas.provider.project "america/toronto" moment = some ⟨59, 23, 29, 2, 4⟩ := by
  intro moment
  have known : (Provider.ofZones Atlas.resolve Atlas.lookupNotices).knows "america/toronto" = .ok true := by
    decide +kernel
  obtain ⟨⟨zone, found, view⟩, -⟩ :=
    provider_shows_calendar Atlas.resolve Atlas.lookupNotices "america/toronto" known
  exact ⟨known, ⟨zone, found, view moment⟩, by decide +kernel⟩

end TimeGate
