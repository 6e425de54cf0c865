import TimeGate.Gate.Session
import TimeGate.Proofs.Schedule.Reading
import TimeGate.Proofs.Traversal

/-! Decisions and their explanations. A gate allows what all five rows of its explanation admit, and fails
to decide exactly where it fails to explain, with the same error. This holds for any provider: also for one
that fails in ways of its own, or that keeps a state between two questions. -/

set_option autoImplicit false

namespace TimeGate

namespace PerField

variable {α : Type}

/-- The list of the items is read by position as the items are by field. -/
theorem toList_getElem? (items : PerField α) {index : Nat} {field : Field}
    (place : Field.all[index]? = some field) : items.toList[index]? = some (items.get field) := by
  rw [toList_eq, List.getElem?_map, place]
  rfl

end PerField

namespace Gate

/-- The specification that a gate shows under a name. -/
def specNamed? (gate : Gate) (name : String) : Option FieldSpec :=
  match Aspect.ofName? name with
  | some (.field field) => some (gate.schedule.get field)
  | _ => none

/-- The rows of an explanation of five calendar numbers. The row in each place is about the field that has
this place, the number in this place, and the specification that the gate shows under the field's name. -/
structure Explains (gate : Gate) (components : Components) (rows : List Row) : Prop where
  five : rows.length = 5
  each : ∀ (index : Nat) (field : Field), Field.all[index]? = some field →
    ∃ value spec, components.toList[index]? = some value ∧ gate.specNamed? field.name = some spec ∧
      rows[index]? = some ⟨field, value, spec.admits value⟩

theorem specNamed?_name (gate : Gate) (field : Field) :
    gate.specNamed? field.name = some (gate.schedule.get field) := by
  have named : Aspect.ofName? field.name = some (.field field) := by cases field <;> decide
  rw [specNamed?, named]

theorem explains_rows (gate : Gate) (components : Components) :
    gate.Explains components (gate.rows components) where
  five := by rw [rows, List.length_map]; rfl
  each index field place := by
    refine ⟨components.get field, gate.schedule.get field, components.toList_getElem? place,
      gate.specNamed?_name field, ?_⟩
    rw [rows, List.getElem?_map, place]
    rfl

theorem admits_eq_all_rows (gate : Gate) (components : Components) :
    gate.schedule.admits components = (gate.rows components).all Row.admitted := by
  rw [rows, List.all_map]
  rfl

section Evaluating

variable {provider : Provider} {gate : Gate} {candidate : Candidate}

theorem components_eq_ok_iff {components : Components} :
    gate.components provider candidate = .ok components ↔
      ∃ moment, candidate = .moment moment ∧ provider.project gate.zone moment = some components := by
  cases candidate with
  | other kind => simp [Gate.components]
  | moment moment =>
    simp only [Gate.components, Candidate.moment.injEq, exists_eq_left']
    cases provider.project gate.zone moment <;> simp

theorem allows_eq_all_rows :
    gate.allows provider candidate =
      (gate.explain provider candidate).map fun rows => rows.all Row.admitted := by
  rw [allows, explain]
  cases gate.components provider candidate with
  | error e => rfl
  | ok components => exact congrArg _ (gate.admits_eq_all_rows components)

end Evaluating

/-! ## Providers with effects -/

section Effects

variable {m : Type → Type} [Monad m] {α : Type}

/-- Evaluation without effects is the library's own; it is no second one. -/
theorem evaluateM_showingOf (provider : Provider) (gate : Gate) (answer : Components → α)
    (candidate : Candidate) :
    (gate.evaluateM (showingOf provider) answer candidate).run =
      (gate.components provider candidate).map answer := by
  cases candidate with
  | other kind => rfl
  | moment moment =>
    simp only [evaluateM, showingOf, Gate.components]
    cases provider.project gate.zone moment <;> rfl

variable [LawfulMonad m]

theorem evaluateM_admits (showing : Showing m) (gate : Gate) (candidate : Candidate) :
    gate.evaluateM showing gate.schedule.admits candidate =
      (fun rows => rows.all Row.admitted) <$> gate.evaluateM showing gate.rows candidate := by
  have admits : gate.schedule.admits = (fun rows => rows.all Row.admitted) ∘ gate.rows :=
    funext gate.admits_eq_all_rows
  cases candidate with
  | other kind => simp [evaluateM]
  | moment moment => rw [evaluateM, evaluateM, admits, comp_map]

end Effects

/-- A gate decides exactly where it explains and fails with the same error elsewhere. An explanation has a
row for each field in order, with the number that the provider shows in its place and the verdict of the
specification that can be read under the field's name; the gate allows what every row admits. What is no
moment is refused without asking the provider, and a moment is asked about once either way. A provider with
effects of its own is answered from in the same way, whatever they are. -/
theorem decision_agrees_with_rows (gate : Gate) :
    (∀ provider candidate,
      (∀ e, gate.allows provider candidate = .error e ↔ gate.explain provider candidate = .error e) ∧
      (∀ allowed, gate.allows provider candidate = .ok allowed ↔
        ∃ rows, gate.explain provider candidate = .ok rows ∧
          (allowed = true ↔ ∀ row ∈ rows, row.admitted = true)) ∧
      (∀ rows, gate.explain provider candidate = .ok rows →
        ∃ moment components, candidate = .moment moment ∧
          provider.project gate.zone moment = some components ∧ gate.Explains components rows)) ∧
    (∀ provider kind, gate.allows provider (.other kind) = .error (.notMoment kind) ∧
      gate.explain provider (.other kind) = .error (.notMoment kind)) ∧
    (∀ provider (state : Session.State) name, state.find? name = some gate →
      (∀ kind, (Session.step provider state (.allows name (.other kind))).1 = state ∧
        (Session.step provider state (.explain name (.other kind))).1 = state) ∧
      ∀ moment, (Session.step provider state (.allows name (.moment moment))).1.calls =
          state.calls ++ [(moment, gate.zone)] ∧
        (Session.step provider state (.explain name (.moment moment))).1.calls =
          state.calls ++ [(moment, gate.zone)]) ∧
    (∀ (m : Type → Type) [Monad m] [LawfulMonad m] (showing : Showing m) candidate,
      gate.evaluateM showing gate.schedule.admits candidate =
        (fun rows => rows.all Row.admitted) <$> gate.evaluateM showing gate.rows candidate) ∧
    ∀ provider candidate,
      (gate.evaluateM (showingOf provider) gate.schedule.admits candidate).run =
        gate.allows provider candidate ∧
      (gate.evaluateM (showingOf provider) gate.rows candidate).run = gate.explain provider candidate := by
  refine ⟨fun provider candidate => ⟨?error, ?verdict, ?rows⟩, fun provider kind => ⟨rfl, rfl⟩, ?asked,
    fun m _ _ showing candidate => evaluateM_admits showing gate candidate, fun provider candidate => ?plain⟩
  case error =>
    intro e
    rw [allows_eq_all_rows, Traversal.map_eq_error_iff]
  case verdict =>
    intro allowed
    rw [allows_eq_all_rows, Traversal.map_eq_ok_iff]
    refine exists_congr fun rows => and_congr_right fun _ => ?_
    rw [← List.all_eq_true, ← Bool.eq_iff_iff, eq_comm]
  case rows =>
    intro rows explained
    obtain ⟨components, shown, rfl⟩ := Traversal.map_eq_ok_iff.mp explained
    obtain ⟨moment, rfl, projected⟩ := components_eq_ok_iff.mp shown
    exact ⟨moment, components, rfl, projected, gate.explains_rows components⟩
  case asked =>
    intro provider state name found
    constructor
    · intro kind
      simp [Session.step, found, Session.State.evaluate_other]
    · intro moment
      simp [Session.step, found, Session.State.evaluate_moment]
  case plain =>
    exact ⟨evaluateM_showingOf provider gate _ candidate, evaluateM_showingOf provider gate _ candidate⟩

end Gate

end TimeGate
