import TimeGate.Shape.Records

/-! Checks of the parts of a record. All parts are checked, so a record fails if any of its parts does. -/

set_option autoImplicit false

namespace TimeGate

variable {α β : Type}

namespace Checked

def Fails (outcome : Checked α) : Prop := ∃ issues, outcome = .error issues

@[simp] theorem not_fails_ok (a : α) : ¬ Fails (.ok a) := by
  rintro ⟨issues, same⟩
  contradiction

@[simp] theorem fails_error (issues : List Issue) : Fails (.error issues : Checked α) := ⟨issues, rfl⟩

theorem fails_iff_toOption {outcome : Checked α} : outcome.Fails ↔ outcome.toOption = none := by
  cases outcome <;> simp [Except.toOption]

@[simp] theorem fails_map_iff {outcome : Checked α} {f : α → β} :
    Fails (Except.map f outcome) ↔ outcome.Fails := by
  cases outcome <;> simp [Except.map]

theorem both_eq_ok_iff {first : Checked α} {second : Checked β} {a : α} {b : β} :
    first.both second = .ok (a, b) ↔ first = .ok a ∧ second = .ok b := by
  cases first <;> cases second <;> simp [both]

theorem fails_both_iff {first : Checked α} {second : Checked β} :
    (first.both second).Fails ↔ first.Fails ∨ second.Fails := by
  cases first <;> cases second <;> simp [both]

@[simp] theorem under_eq_ok_iff {name : String} {outcome : Checked α} {a : α} :
    under name outcome = .ok a ↔ outcome = .ok a := by
  cases outcome <;> simp [under]

@[simp] theorem fails_under_iff {name : String} {outcome : Checked α} :
    (under name outcome).Fails ↔ outcome.Fails := by
  cases outcome <;> simp [under]

end Checked

namespace Shape

variable {check : Value → Checked α} {absent : α}

theorem record_eq_ok_iff {value : Value} {entries : Entries} :
    record value = .ok entries ↔ value = .map entries := by
  cases value <;> simp [record, Checked.fail]

/-- What comes of a part that may be absent: its default, or the value that passes its check. -/
inductive Settles (check : Value → Checked α) (absent : α) : Option Value → α → Prop where
  | absent : Settles check absent none absent
  | value {value : Value} {a : α} : check value = .ok a → Settles check absent (some value) a

theorem settles_some_iff {value : Value} {a : α} :
    Settles check absent (some value) a ↔ check value = .ok a := by
  constructor
  · rintro ⟨⟩
    assumption
  · exact .value

theorem optional_eq_ok_iff {name : String} {entries : Entries} {a : α} :
    optional name absent check entries = .ok a ↔ Settles check absent (lookupText name entries) a := by
  unfold optional
  cases lookupText name entries with
  | none =>
    constructor
    · rintro ⟨⟩
      exact .absent
    · rintro ⟨⟩
      rfl
  | some value => rw [settles_some_iff, Checked.under_eq_ok_iff]

theorem fails_optional_iff {name : String} {entries : Entries} :
    (optional name absent check entries).Fails ↔
      ∃ value, lookupText name entries = some value ∧ (check value).Fails := by
  unfold optional
  cases lookupText name entries <;> simp

end Shape

end TimeGate
