import TimeGate.Proofs.Gate.Building
import TimeGate.Proofs.Zone.Projection

/-! Names in a registry of zones. A registry of which exactly the keys load, no two of one folded form, either
finds a key of the folded form of a name or fails as the name itself fails to load. Asking for a name
beforehand and resolving it later agree, and all names that are known under one folded form stand for the same
zone. A failure that is not foreseen is passed on when a name is asked for, and only such a failure is. -/

set_option autoImplicit false

namespace TimeGate

namespace Registry

/-- Why a moment is not shown in the zone of a name. -/
inductive Failure where
  | zone (fault : Fault)
  | outOfCalendar
  deriving DecidableEq, Repr

variable {α : Type} [DecidableEq α]

/-- The calendar numbers of a moment in the zone of a name, which is resolved anew. -/
def components (registry : Registry) (fold : String → α) (name : String) (moment : DateTime) :
    Except Failure Components :=
  match registry.resolve fold name with
  | .error fault => .error (.zone fault)
  | .ok zone =>
    match zone.components? moment with
    | some components => .ok components
    | none => .error .outOfCalendar

/-- Exactly the keys load, and no two of them have the same folded form. -/
structure Lawful (registry : Registry) (fold : String → α) : Prop where
  loads_iff : ∀ name, (∃ zone, registry.load name = .ok zone) ↔ name ∈ registry.keys
  distinct : ∀ key ∈ registry.keys, ∀ other ∈ registry.keys, fold key = fold other → key = other

variable {registry : Registry} {fold : String → α} {name key : String}

/-! ## Resolving -/

theorem keyOf?_eq_none_iff :
    registry.keyOf? fold name = none ↔ ∀ key ∈ registry.keys, fold name ≠ fold key := by
  rw [keyOf?, List.find?_eq_none]
  exact forall₂_congr fun key _ => not_congr (beq_iff_eq.trans eq_comm)

theorem mem_of_keyOf? (found : registry.keyOf? fold name = some key) :
    key ∈ registry.keys ∧ fold name = fold key := by
  unfold keyOf? at found
  have alike : fold key = fold name := by simpa using List.find?_some found
  exact ⟨List.mem_of_find?_eq_some found, alike.symm⟩

theorem resolve_of_load {zone : Zone} (loaded : registry.load name = .ok zone) :
    registry.resolve fold name = .ok zone := by
  simp only [resolve, loaded]

theorem resolve_of_fault {fault : Fault} (failed : registry.load name = .error fault)
    (found : fault ≠ .notFound) : registry.resolve fold name = .error fault := by
  cases fault with
  | notFound => exact absurd rfl found
  | malformed | unreadable | unforeseen => simp only [resolve, failed]

/-- A name stands for a key, either because it is one or because it is not found as it stands. Otherwise it
fails in the way in which loading it fails. -/
theorem Lawful.resolve_cases (lawful : registry.Lawful fold) (name : String) :
    (∃ key ∈ registry.keys, fold name = fold key ∧
      (name ∈ registry.keys ∨ registry.load name = .error .notFound) ∧
      registry.resolve fold name = registry.load key) ∨
    ∃ fault, registry.load name = .error fault ∧ registry.resolve fold name = .error fault ∧
      (fault = .notFound → ∀ key ∈ registry.keys, fold name ≠ fold key) := by
  cases loaded : registry.load name with
  | ok zone =>
    have member := (lawful.loads_iff name).mp ⟨zone, loaded⟩
    exact .inl ⟨name, member, rfl, .inl member, (resolve_of_load loaded).trans loaded.symm⟩
  | error fault =>
    by_cases missing : fault = .notFound
    · subst missing
      cases keyed : registry.keyOf? fold name with
      | none =>
        refine .inr ⟨.notFound, rfl, ?_, fun _ => keyOf?_eq_none_iff.mp keyed⟩
        simp only [resolve, loaded, keyed]
      | some key =>
        obtain ⟨member, same⟩ := mem_of_keyOf? keyed
        -- The name does not load, and every key does.
        have other : key ≠ name := by
          rintro rfl
          obtain ⟨zone, loads⟩ := (lawful.loads_iff key).mpr member
          rw [loaded] at loads
          contradiction
        refine .inl ⟨key, member, same, .inr rfl, ?_⟩
        simp only [resolve, loaded, keyed, if_neg other]
    · exact .inr ⟨fault, rfl, resolve_of_fault loaded missing, fun absent => absurd absent missing⟩

/-! ## Asking for a name -/

/-- Asking for a name fails exactly where loading it fails in a way that is not foreseen. -/
theorem Lawful.knows_eq_error_iff (lawful : registry.Lawful fold) {fault : Fault} :
    registry.knows fold name = .error fault ↔
      registry.load name = .error fault ∧ fault.isForeseen = false := by
  rw [knows, isZone_eq_error_iff]
  refine and_congr_left fun unforeseen => ?_
  rcases lawful.resolve_cases name with ⟨key, member, -, found, resolved⟩ | ⟨other, failed, resolved, -⟩
  · obtain ⟨zone, loads⟩ := (lawful.loads_iff key).mpr member
    -- A key loads, and a name that is missing fails as foreseen.
    refine iff_of_false (by simp [resolved, loads]) fun failed => ?_
    rcases found with isKey | missing
    · obtain ⟨_, itself⟩ := (lawful.loads_iff name).mpr isKey
      rw [failed] at itself
      contradiction
    · cases failed.symm.trans missing
      contradiction
  · rw [failed, resolved]

/-- A name is known exactly if it is spelled like a key and does not fail by itself in some other way than
that it is not found. -/
theorem Lawful.knows_iff (lawful : registry.Lawful fold) :
    registry.knows fold name = .ok true ↔
      (∃ key ∈ registry.keys, fold name = fold key) ∧
        (name ∈ registry.keys ∨ registry.load name = .error .notFound) := by
  rw [knows, isZone_eq_true_iff]
  rcases lawful.resolve_cases name with ⟨key, member, same, found, resolved⟩ | ⟨fault, failed, resolved, unlike⟩
  · rw [resolved]
    exact iff_of_true ((lawful.loads_iff key).mpr member) ⟨⟨key, member, same⟩, found⟩
  · refine iff_of_false (by simp [resolved]) ?_
    rintro ⟨⟨key, member, same⟩, isKey | missing⟩
    · obtain ⟨_, itself⟩ := (lawful.loads_iff name).mpr isKey
      rw [failed] at itself
      contradiction
    · cases failed.symm.trans missing
      exact unlike rfl key member same

theorem Lawful.knows_of_mem (lawful : registry.Lawful fold) (member : key ∈ registry.keys) :
    registry.knows fold key = .ok true :=
  lawful.knows_iff.mpr ⟨⟨key, member, rfl⟩, .inl member⟩

/-! ## Using a name -/

/-- A known name stands for the key of its folded form. -/
theorem Lawful.resolve_of_knows (lawful : registry.Lawful fold) (known : registry.knows fold name = .ok true)
    (member : key ∈ registry.keys) (same : fold name = fold key) :
    registry.resolve fold name = registry.load key := by
  obtain ⟨zone, found⟩ := isZone_eq_true_iff.mp known
  rcases lawful.resolve_cases name with ⟨other, otherMember, otherSame, -, resolved⟩ | ⟨fault, -, failed, -⟩
  · rw [resolved, lawful.distinct other otherMember key member (otherSame.symm.trans same)]
  · rw [failed] at found
    contradiction

theorem Lawful.resolve_congr (lawful : registry.Lawful fold) {other : String} (same : fold name = fold other)
    (known : registry.knows fold name = .ok true) (otherKnown : registry.knows fold other = .ok true) :
    registry.resolve fold name = registry.resolve fold other := by
  obtain ⟨⟨key, member, folded⟩, -⟩ := lawful.knows_iff.mp known
  rw [lawful.resolve_of_knows known member folded,
    lawful.resolve_of_knows otherKnown member (same.symm.trans folded)]

theorem components_of_resolve {zone : Zone} (resolved : registry.resolve fold name = .ok zone)
    (moment : DateTime) :
    registry.components fold name moment =
      match zone.components? moment with
      | some components => .ok components
      | none => .error .outOfCalendar := by
  simp only [components, resolved]

theorem Lawful.exists_components (lawful : registry.Lawful fold) (known : registry.knows fold name = .ok true)
    (member : key ∈ registry.keys) (same : fold name = fold key) :
    ∃ zone, registry.load key = .ok zone ∧ ∀ moment,
      registry.components fold name moment = registry.components fold key moment ∧
      registry.components fold key moment =
        match zone.components? moment with
        | some components => .ok components
        | none => .error .outOfCalendar := by
  obtain ⟨zone, loaded⟩ := (lawful.loads_iff key).mpr member
  have here := components_of_resolve ((lawful.resolve_of_knows known member same).trans loaded)
  have keyed := lawful.resolve_of_knows (lawful.knows_of_mem member) member rfl
  have there := components_of_resolve (keyed.trans loaded)
  exact ⟨zone, loaded, fun moment => ⟨(here moment).trans (there moment).symm, there moment⟩⟩

/-! ## Providers -/

section Providers

variable (lookupNotices : String → List Notice)

theorem project_eq_components (name : String) (moment : DateTime) :
    (Provider.ofZones (registry.resolve fold) lookupNotices).project name moment =
      (registry.components fold name moment).toOption := by
  simp only [Provider.ofZones, components]
  cases registry.resolve fold name with
  | error fault => rfl
  | ok zone =>
    simp only [Except.toOption, Option.bind_some]
    cases zone.components? moment <;> rfl

/-- Gates of known names of one folded form decide alike. -/
theorem Lawful.build_of_alike (lawful : registry.Lawful fold) {other : String}
    (same : fold name = fold other) (otherKnown : registry.knows fold other = .ok true)
    {expression : Value} {strict : Bool} {gate : Gate}
    (built : Gate.build (.ofZones (registry.resolve fold) lookupNotices) expression (.text name) strict =
      .ok gate) :
    ∃ otherGate,
      Gate.build (.ofZones (registry.resolve fold) lookupNotices) expression (.text other) strict =
        .ok otherGate ∧
      ∀ candidate,
        gate.allows (.ofZones (registry.resolve fold) lookupNotices) candidate =
          otherGate.allows (.ofZones (registry.resolve fold) lookupNotices) candidate ∧
        gate.explain (.ofZones (registry.resolve fold) lookupNotices) candidate =
          otherGate.explain (.ofZones (registry.resolve fold) lookupNotices) candidate := by
  obtain ⟨schedule, _, read, ⟨⟩, known, rfl⟩ := Gate.build_eq_ok_iff.mp built
  have alike := lawful.resolve_congr same known otherKnown
  refine ⟨⟨schedule, other, strict⟩, Gate.build_of_known_zone read otherKnown, fun candidate => ?_⟩
  have view :
      (Gate.mk schedule name strict).components (.ofZones (registry.resolve fold) lookupNotices) candidate =
        (Gate.mk schedule other strict).components (.ofZones (registry.resolve fold) lookupNotices)
          candidate := by
    cases candidate with
    | other kind => rfl
    | moment moment => simp only [Gate.components, Provider.ofZones, alike]
  constructor
  · rw [Gate.allows, Gate.allows, view]
  · rw [Gate.explain, Gate.explain, view]
    rfl

end Providers

end Registry

end TimeGate
