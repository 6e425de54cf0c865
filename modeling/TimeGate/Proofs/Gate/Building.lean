import TimeGate.Gate

/-! When a gate is built and when it is not. The schedule is asked for first; the zone matters only once the
schedule can be read, and is known, unknown, or fails to be looked for. -/

set_option autoImplicit false

namespace TimeGate.Gate

variable {provider : Provider} {expression zone : Value} {strict : Bool}

theorem build_of_refused_schedule {e : ReadError}
    (refused : Schedule.readValue strict expression = .error e) :
    build provider expression zone strict = .error (.ofRead e) := by
  rw [build, refused]

section Read

variable {schedule : Schedule} (read : Schedule.readValue strict expression = .ok schedule)
include read

theorem build_of_known_zone {name : String} (known : provider.knows name = .ok true) :
    build provider expression (.text name) strict = .ok ⟨schedule, name, strict⟩ := by
  simp only [build, read, known]

theorem build_of_unknown_zone {name : String} (unknown : provider.knows name = .ok false) :
    build provider expression (.text name) strict =
      .error (.refused (.unknownZone (.text name))) := by
  simp only [build, read, unknown]

theorem build_of_lookup_fault {name : String} {fault : Registry.Fault}
    (failed : provider.knows name = .error fault) :
    build provider expression (.text name) strict = .error (.lookup fault) := by
  simp only [build, read, failed]

theorem build_of_not_text (notText : ∀ name, zone ≠ .text name) :
    build provider expression zone strict = .error (.refused (.unknownZone zone)) := by
  simp only [build, read]
  split
  · next name => exact absurd rfl (notText name)
  · rfl

end Read

theorem build_eq_ok_iff {gate : Gate} :
    build provider expression zone strict = .ok gate ↔
      ∃ schedule name, Schedule.readValue strict expression = .ok schedule ∧ zone = .text name ∧
        provider.knows name = .ok true ∧ gate = ⟨schedule, name, strict⟩ := by
  constructor
  · intro built
    cases read : Schedule.readValue strict expression with
    | error e =>
      rw [build_of_refused_schedule read] at built
      contradiction
    | ok schedule =>
      by_cases isText : ∃ name, zone = .text name
      · obtain ⟨name, rfl⟩ := isText
        cases told : provider.knows name with
        | error fault =>
          rw [build_of_lookup_fault read told] at built
          contradiction
        | ok known =>
          cases known with
          | false =>
            rw [build_of_unknown_zone read told] at built
            contradiction
          | true =>
            rw [build_of_known_zone read told] at built
            exact ⟨schedule, name, rfl, rfl, told, (Except.ok.inj built).symm⟩
      · rw [build_of_not_text read fun name same => isText ⟨name, same⟩] at built
        contradiction
  · rintro ⟨schedule, name, read, rfl, known, rfl⟩
    exact build_of_known_zone read known

/-- What is refused is the schedule or, if that can be read, the zone. -/
theorem refused_cases {cause : Refusal}
    (refused : build provider expression zone strict = .error (.refused cause)) :
    Schedule.readValue strict expression = .error (.refused cause) ∨ cause = .unknownZone zone := by
  cases read : Schedule.readValue strict expression with
  | error e =>
    rw [build_of_refused_schedule read] at refused
    cases e with
    | refused other =>
      cases refused
      exact .inl rfl
    | numeralTooLong => cases refused
  | ok schedule =>
    refine .inr ?_
    simp only [build, read] at refused
    split at refused
    · split at refused <;> cases refused
      rfl
    · cases refused
      rfl

/-- A decision depends on the schedule and the zone alone. -/
theorem allows_congr {gate other : Gate} (schedule : gate.schedule = other.schedule)
    (zone : gate.zone = other.zone) (candidate : Candidate) :
    gate.allows provider candidate = other.allows provider candidate := by
  cases candidate <;> simp [allows, components, schedule, zone]

end TimeGate.Gate
