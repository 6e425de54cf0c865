import TimeGate.Gate
import TimeGate.Proofs.Schedule.Meaning

/-! What a gate decides, in terms of the text it was built from. -/

set_option autoImplicit false

namespace TimeGate.Gate

open TimeGate.Decimal TimeGate.Text

/-- A gate built from a text allows a moment exactly if every token of the text admits the calendar
number in its place, as the provider shows the moment in the zone. Zeros in front of a numeral do
not count. -/
theorem allows_iff_every_token_admits (provider : Provider) (text zone : String) (strict : Bool)
    (schedule : Schedule) (moment : DateTime) (components : Components)
    (accepted : Schedule.read strict text = .ok schedule) (known : provider.knows zone = .ok true)
    (shown : provider.project zone moment = some components) :
    (∃ gate, build provider (.text text) (.text zone) strict = .ok gate ∧
      ∃ tokens allowed, Spaced text.toList tokens ∧
        gate.allows provider (.moment moment) = .ok allowed ∧
        (allowed = true ↔ List.Forall₂ Grammar.TokenAdmits tokens
          [components.minute, components.hour, components.dayOfMonth, components.month,
            components.dayOfWeek])) ∧
    ∀ zeros numeral, value (List.replicate zeros '0' ++ numeral) = value numeral := by
  obtain ⟨tokens, spaced, admits⟩ := Schedule.admits_iff_tokens accepted
  refine ⟨⟨⟨schedule, zone, strict⟩, ?_, tokens, schedule.admits components, spaced, ?_, admits components⟩,
    value_zeros⟩
  · simp [build, Schedule.readValue, accepted, known]
  · simp [allows, Gate.components, shown, Except.map]

/-- Friday night in a zone five hours ahead, tried on a text with a wrapped hour, a wrapped month
and a zero in front. -/
theorem allows_friday_night :
    let provider := Provider.ofShifts [("Lab", 5)]
    let text := "0-29 22-06 * 9-6,8 05"
    let moment : DateTime := ⟨⟨2024, 3, 15, by decide⟩, ⟨18, 5, 0, 0, by decide⟩, none⟩
    provider.knows "Lab" = .ok true ∧ provider.project "Lab" moment = some ⟨5, 23, 15, 3, 5⟩ ∧
      ∃ gate, build provider (.text text) (.text "Lab") true = .ok gate ∧
        ∃ tokens allowed, Spaced text.toList tokens ∧
          gate.allows provider (.moment moment) = .ok allowed ∧
          (allowed = true ↔ List.Forall₂ Grammar.TokenAdmits tokens [5, 23, 15, 3, 5]) := by
  intro provider text moment
  have accepted : Schedule.read true "0-29 22-06 * 9-6,8 05" = .ok ⟨.union ⟨⟨0, 29⟩, []⟩, .union ⟨⟨22, 6⟩, []⟩, .any,
      .union ⟨⟨9, 6⟩, [⟨8, 8⟩]⟩, .union ⟨⟨5, 5⟩, []⟩⟩ := rfl
  have known : provider.knows "Lab" = .ok true := by decide
  have shown : provider.project "Lab" moment = some ⟨5, 23, 15, 3, 5⟩ := by decide
  exact ⟨known, shown,
    (allows_iff_every_token_admits provider text "Lab" true _ moment _ accepted known shown).1⟩

end TimeGate.Gate
