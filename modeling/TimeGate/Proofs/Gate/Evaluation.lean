import TimeGate.Proofs.Gate.Building
import TimeGate.Proofs.Schedule.Meaning
import TimeGate.Proofs.Zone.Offsets

/-! What a gate answers to a moment. Where the moment and the time that the zone shows for it lie in the
calendar there is a verdict and a row for each field; elsewhere there is an error. Of the schedule only
what it admits among the legal values counts, since no other values are ever shown. -/

set_option autoImplicit false

namespace TimeGate

namespace Schedule

/-- The schedules admit the same legal values in each field. They may differ on all others. -/
def AgreeWithin (schedule other : Schedule) : Prop :=
  ∀ (field : Field) (value : Int), field.domain.Holds value →
    (schedule.get field).admits value = (other.get field).admits value

/-- The schedule admits every legal value of every field. -/
def Full (schedule : Schedule) : Prop :=
  ∀ (field : Field) (value : Int), field.domain.Holds value → (schedule.get field).admits value = true

theorem AgreeWithin.admits_eq {schedule other : Schedule} (agree : schedule.AgreeWithin other)
    {components : Components} (legal : ∀ field : Field, field.domain.Holds (components.get field)) :
    schedule.admits components = other.admits components := by
  unfold Schedule.admits
  congr 1
  funext field
  exact agree field _ (legal field)

def stars : Schedule := ⟨.any, .any, .any, .any, .any⟩

theorem read_stars (strict : Bool) : read strict "* * * * *" = .ok stars := by
  cases strict <;> rfl

theorem Full.agreeWithin {schedule other : Schedule} (full : schedule.Full) (otherFull : other.Full) :
    schedule.AgreeWithin other := by
  intro field value legal
  rw [full field value legal, otherFull field value legal]

theorem full_stars : stars.Full := by
  intro field value _
  cases field <;> rfl

end Schedule

/-- Whatever a database of zones shows is legal in its field. -/
theorem Provider.holds_of_shown {database : String → Except Registry.Fault Zone}
    {lookupNotices : String → List Notice} {name : String} {moment : DateTime} {components : Components}
    (shown : (Provider.ofZones database lookupNotices).project name moment = some components)
    (field : Field) : field.domain.Holds (components.get field) := by
  obtain ⟨zone, -, counted⟩ := Option.bind_eq_some_iff.mp shown
  have shows := zone.shows_components? moment
  rw [counted] at shows
  exact shows.holds field

namespace Gate

/-! ## Verdict and rows -/

section Evaluating

variable {provider : Provider} {gate : Gate} {moment : DateTime}

theorem answers_of_shown {components : Components}
    (shown : provider.project gate.zone moment = some components) :
    gate.allows provider (.moment moment) = .ok (gate.schedule.admits components) ∧
      gate.explain provider (.moment moment) = .ok (gate.rows components) := by
  simp only [allows, explain, Gate.components, shown]
  exact ⟨rfl, rfl⟩

theorem answers_of_hidden (hidden : provider.project gate.zone moment = none) :
    gate.allows provider (.moment moment) = .error .outOfCalendar ∧
      gate.explain provider (.moment moment) = .error .outOfCalendar := by
  simp only [allows, explain, Gate.components, hidden]
  exact ⟨rfl, rfl⟩

end Evaluating

theorem map_field_rows (gate : Gate) (components : Components) :
    (gate.rows components).map Row.field = Field.all := by
  unfold rows
  rw [List.map_map]
  exact List.map_id _

theorem rows_congr {gate other : Gate} (agree : gate.schedule.AgreeWithin other.schedule)
    {components : Components} (legal : ∀ field : Field, field.domain.Holds (components.get field)) :
    gate.rows components = other.rows components := by
  unfold rows
  apply List.map_congr_left
  intro field _
  rw [agree field _ (legal field)]

theorem build_of_read {provider : Provider} {strict : Bool} {text zone : String} {schedule : Schedule}
    (known : provider.knows zone = .ok true) (accepted : Schedule.read strict text = .ok schedule) :
    build provider (.text text) (.text zone) strict = .ok ⟨schedule, zone, strict⟩ := by
  have read : Schedule.readValue strict (.text text) = .ok schedule := accepted
  exact build_of_known_zone read known

/-! ## The ends of the calendar -/

/-- A gate over a database of zones answers a moment with a verdict and five rows exactly if its zone
reaches the moment, and with an error otherwise. Moments of the years 2 to 9998 are always reached where
clocks are less than a day off UTC, and those of the atlas are. -/
theorem evaluation_answers_what_is_reached (database : String → Except Registry.Fault Zone)
    (lookupNotices : String → List Notice) (expression zone : Value) (strict : Bool) (gate : Gate)
    (built : build (Provider.ofZones database lookupNotices) expression zone strict = .ok gate) :
    let provider := Provider.ofZones database lookupNotices
    (∃ place, database gate.zone = .ok place ∧
      (∀ moment, place.Reaches moment → ∃ components rows, place.Shows moment (some components) ∧
        gate.allows provider (.moment moment) = .ok (gate.schedule.admits components) ∧
        gate.explain provider (.moment moment) = .ok rows ∧
        rows = gate.rows components ∧ rows.map Row.field = Field.all) ∧
      (∀ moment, ¬ place.Reaches moment →
        gate.allows provider (.moment moment) = .error .outOfCalendar ∧
        gate.explain provider (.moment moment) = .error .outOfCalendar) ∧
      (place.WithinDay → ∀ moment : DateTime, 2 ≤ moment.date.year → moment.date.year ≤ 9998 →
        place.Reaches moment)) ∧
    ∀ name place, Atlas.resolve name = .ok place → place.WithinDay := by
  intro provider
  obtain ⟨schedule, name, -, -, known, rfl⟩ := build_eq_ok_iff.mp built
  obtain ⟨place, found⟩ := Provider.knows_ofZones_iff.mp known
  have project_eq (moment : DateTime) : provider.project name moment = place.components? moment :=
    Provider.project_ofZones found moment
  refine ⟨⟨place, found, fun moment reaches => ?_, fun moment beyond => ?_,
    fun within moment late early => within.reaches late early⟩, fun _ _ => Atlas.withinDay⟩
  · obtain ⟨components, counted, shows⟩ := place.components?_of_reaches reaches
    have shown := (project_eq moment).trans counted
    obtain ⟨allowed, explained⟩ := @answers_of_shown provider ⟨schedule, name, strict⟩ moment _ shown
    exact ⟨components, _, shows, allowed, explained, rfl, map_field_rows _ components⟩
  · exact answers_of_hidden ((project_eq moment).trans (place.components?_of_not_reaches beyond))

/-- Fourteen hours ahead of UTC the calendar ends at ten in the morning. -/
theorem evaluation_answers_until_ten :
    let gate : Gate := ⟨.stars, "Etc/GMT-14", false⟩
    let last : DateTime := ⟨⟨9999, 12, 31, by decide⟩, ⟨9, 59, 59, 999999, by decide⟩, some Offset.utc⟩
    let next : DateTime := ⟨⟨9999, 12, 31, by decide⟩, ⟨10, 0, 0, 0, by decide⟩, none⟩
    build Atlas.provider (.text "* * * * *") (.text "Etc/GMT-14") false = .ok gate ∧
      Atlas.etcMinus14.Reaches last ∧ ¬ Atlas.etcMinus14.Reaches next ∧
      (∃ components, Atlas.etcMinus14.Shows last (some components) ∧
        gate.allows Atlas.provider (.moment last) = .ok (gate.schedule.admits components) ∧
        gate.explain Atlas.provider (.moment last) = .ok (gate.rows components)) ∧
      gate.allows Atlas.provider (.moment next) = .error .outOfCalendar := by
  intro gate last next
  have found : Atlas.resolve "Etc/GMT-14" = .ok Atlas.etcMinus14 := by decide +kernel
  have built : build Atlas.provider (.text "* * * * *") (.text "Etc/GMT-14") false = .ok gate :=
    build_of_read (by decide +kernel) (Schedule.read_stars false)
  have reached : Atlas.etcMinus14.Reaches last :=
    ⟨(inCalendar_iff _).mp (by decide +kernel), (inCalendar_iff _).mp (by decide +kernel)⟩
  have beyond : ¬ Atlas.etcMinus14.Reaches next := by
    rintro ⟨-, there⟩
    exact absurd ((inCalendar_iff _).mpr there) (by decide +kernel)
  obtain ⟨⟨place, same, answered, failed, -⟩, -⟩ :=
    evaluation_answers_what_is_reached Atlas.resolve Atlas.lookupNotices _ _ _ gate built
  obtain rfl : Atlas.etcMinus14 = place := Except.ok.inj (found.symm.trans same)
  obtain ⟨components, rows, shows, allowed, explained, rfl, -⟩ := answered last reached
  exact ⟨built, reached, beyond, ⟨components, shows, allowed, explained⟩, (failed next beyond).1⟩

/-- Two gates that admit anything fail on a moment of the last day and on one of the first. -/
theorem evaluation_fails_at_the_ends :
    let ahead : Gate := ⟨.stars, "Etc/GMT-14", false⟩
    let here : Gate := ⟨.stars, "UTC", true⟩
    let lastNoon : DateTime := ⟨⟨9999, 12, 31, by decide⟩, ⟨12, 0, 0, 0, by decide⟩, some Offset.utc⟩
    let firstMidnight : DateTime :=
      ⟨⟨1, 1, 1, by decide⟩, Clock.midnight, some ⟨3600000000, by decide⟩⟩
    (build Atlas.provider (.text "* * * * *") (.text "Etc/GMT-14") false = .ok ahead ∧
      ahead.allows Atlas.provider (.moment lastNoon) = .error .outOfCalendar ∧
      ahead.explain Atlas.provider (.moment lastNoon) = .error .outOfCalendar) ∧
    build Atlas.provider (.text "* * * * *") (.text "UTC") true = .ok here ∧
      here.allows Atlas.provider (.moment firstMidnight) = .error .outOfCalendar ∧
      here.explain Atlas.provider (.moment firstMidnight) = .error .outOfCalendar := by
  intro ahead here lastNoon firstMidnight
  have hiddenAhead : Atlas.provider.project "Etc/GMT-14" lastNoon = none := by decide +kernel
  have hiddenHere : Atlas.provider.project "UTC" firstMidnight = none := by decide +kernel
  exact ⟨⟨build_of_read (by decide +kernel) (Schedule.read_stars false), answers_of_hidden hiddenAhead⟩,
    build_of_read (by decide +kernel) (Schedule.read_stars true), answers_of_hidden hiddenHere⟩

/-! ## Legal values -/

theorem answers_congr {database : String → Except Registry.Fault Zone}
    {lookupNotices : String → List Notice} {gate other : Gate} (zone : gate.zone = other.zone)
    (agree : gate.schedule.AgreeWithin other.schedule) (candidate : Candidate) :
    gate.allows (Provider.ofZones database lookupNotices) candidate =
        other.allows (Provider.ofZones database lookupNotices) candidate ∧
      gate.explain (Provider.ofZones database lookupNotices) candidate =
        other.explain (Provider.ofZones database lookupNotices) candidate := by
  cases candidate with
  | other kind => exact ⟨rfl, rfl⟩
  | moment moment =>
    cases shown : (Provider.ofZones database lookupNotices).project gate.zone moment with
    | none =>
      obtain ⟨allowed, explained⟩ := answers_of_hidden shown
      obtain ⟨allowedThere, explainedThere⟩ := answers_of_hidden (zone ▸ shown)
      exact ⟨allowed.trans allowedThere.symm, explained.trans explainedThere.symm⟩
    | some components =>
      obtain ⟨allowed, explained⟩ := answers_of_shown shown
      obtain ⟨allowedThere, explainedThere⟩ := answers_of_shown (zone ▸ shown)
      have legal := Provider.holds_of_shown shown
      rw [allowed, explained, allowedThere, explainedThere, agree.admits_eq legal, rows_congr agree legal]
      exact ⟨rfl, rfl⟩

/-- Two gates over one zone are not told apart by any moment if their schedules admit the same legal
values, whatever else they admit. A schedule that admits every legal value is as good as one of stars. -/
theorem answers_depend_on_legal_values (database : String → Except Registry.Fault Zone)
    (lookupNotices : String → List Notice) (zone text otherText : String) (strict otherStrict : Bool)
    (schedule other : Schedule)
    (known : (Provider.ofZones database lookupNotices).knows zone = .ok true)
    (accepted : Schedule.read strict text = .ok schedule)
    (otherAccepted : Schedule.read otherStrict otherText = .ok other) :
    let provider := Provider.ofZones database lookupNotices
    ∃ gate otherGate openGate,
      build provider (.text text) (.text zone) strict = .ok gate ∧
      build provider (.text otherText) (.text zone) otherStrict = .ok otherGate ∧
      build provider (.text "* * * * *") (.text zone) strict = .ok openGate ∧
      (schedule.AgreeWithin other → ∀ candidate,
        gate.allows provider candidate = otherGate.allows provider candidate ∧
        gate.explain provider candidate = otherGate.explain provider candidate) ∧
      (schedule.Full → ∀ candidate,
        gate.allows provider candidate = openGate.allows provider candidate) := by
  intro provider
  refine ⟨⟨schedule, zone, strict⟩, ⟨other, zone, otherStrict⟩, ⟨.stars, zone, strict⟩,
    build_of_read known accepted, build_of_read known otherAccepted,
    build_of_read known (Schedule.read_stars strict), fun agree candidate => ?_, fun full candidate => ?_⟩
  · refine answers_congr ?_ agree candidate
    rfl
  · refine (answers_congr ?_ (full.agreeWithin Schedule.full_stars) candidate).1
    rfl

/-- Nights from Friday to Sunday, written strictly and with bounds that no clock reaches. -/
theorem answers_overlook_hours_past_midnight :
    let provider := Atlas.provider
    let nights : Schedule := ⟨.any, .union ⟨⟨22, 6⟩, []⟩, .any, .any, .union ⟨⟨5, 5⟩, [⟨6, 6⟩, ⟨0, 0⟩]⟩⟩
    let loose : Schedule :=
      ⟨.union ⟨⟨0, 75⟩, []⟩, .union ⟨⟨22, 30⟩, [⟨0, 6⟩]⟩, .any, .any, .union ⟨⟨5, 0⟩, []⟩⟩
    provider.knows "america/toronto" = .ok true ∧
      Schedule.read true "* 22-6 * * 5,6,0" = .ok nights ∧
      Schedule.read false "0-75 22-30,0-6 * * 5-0" = .ok loose ∧
      nights.AgreeWithin loose ∧
      ∃ gate otherGate,
        build provider (.text "* 22-6 * * 5,6,0") (.text "america/toronto") true = .ok gate ∧
        build provider (.text "0-75 22-30,0-6 * * 5-0") (.text "america/toronto") false = .ok otherGate ∧
        ∀ candidate, gate.explain provider candidate = otherGate.explain provider candidate := by
  intro provider nights loose
  have known : provider.knows "america/toronto" = .ok true := by decide +kernel
  have accepted : Schedule.read true "* 22-6 * * 5,6,0" = .ok nights := rfl
  have otherAccepted : Schedule.read false "0-75 22-30,0-6 * * 5-0" = .ok loose := rfl
  have agree : nights.AgreeWithin loose := by
    intro field value legal
    rw [Bool.eq_iff_iff]
    cases field with
    | dayOfMonth | month => rfl
    | minute | hour | dayOfWeek =>
      simp [nights, loose, PerField.get, FieldSpec.admits, RangeSet.ranges, Range.admits_iff, Between,
        Domain.Holds, Field.domain] at legal ⊢
      omega
  obtain ⟨gate, otherGate, -, built, otherBuilt, -, same, -⟩ :=
    answers_depend_on_legal_values Atlas.resolve Atlas.lookupNotices "america/toronto" _ _ true false
      nights loose known accepted otherAccepted
  exact ⟨known, accepted, otherAccepted, agree, gate, otherGate, built, otherBuilt,
    fun candidate => (same agree candidate).2⟩

end Gate

end TimeGate
