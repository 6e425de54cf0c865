import TimeGate.Proofs.Text.Splitting
import TimeGate.Proofs.Zone.Registry

/-! Names of zones in any letter case. Where zones are kept in files and only letters are folded, a name
that is spelled like a key is as good a path as the key: it has the same shape, leads through as many folders
and is no folder itself. So it is either the key or just not found, and only names of too many folders fail
otherwise. -/

set_option autoImplicit false

namespace TimeGate

open TimeGate.Text

namespace Text

/-- What lies below the letters is the lower form of itself only. -/
theorem lowerChar_eq_iff {c d : Char} (below : d.toNat < 65) : lowerChar c = d ↔ c = d := by
  unfold lowerChar
  split
  · next kelvin =>
    refine iff_of_false ?_ ?_
    · rintro rfl
      contradiction
    · rintro rfl
      omega
  · unfold Char.toLower
    split
    · next upper =>
      have least : 65 ≤ c.toNat := UInt32.le_iff_toNat_le.mp upper.1
      have most : c.toNat ≤ 90 := UInt32.le_iff_toNat_le.mp upper.2
      refine iff_of_false ?_ ?_
      · intro raised
        have lifted : (c.val + ('a'.val - 'A'.val)).toNat = c.toNat + 32 := by
          rw [UInt32.toNat_add]
          exact Nat.mod_eq_of_lt (Nat.lt_of_le_of_lt (Nat.add_le_add_right most _) (by decide))
        have same : (c.val + ('a'.val - 'A'.val)).toNat = d.toNat := congrArg Char.toNat raised
        omega
      · rintro rfl
        omega
    · rfl

/-- A separator that is no letter is found in the same places after lowering. -/
theorem pieces_lower {separator : Char} (kept : ∀ c, lowerChar c = separator ↔ c = separator)
    (text : List Char) : pieces separator (lower text) = (pieces separator text).map lower := by
  induction text with
  | nil => rfl
  | cons c rest ih =>
    have tail : pieces separator (rest.map lowerChar) = (pieces separator rest).map lower := ih
    rw [lower, List.map_cons, pieces, pieces, tail]
    by_cases same : c = separator
    · rw [if_pos ((kept c).mpr same), if_pos same]
      rfl
    · rw [if_neg (mt (kept c).mp same), if_neg same]
      cases pieces separator rest <;> rfl

end Text

namespace Registry

open Atlas (lowerName)

/-! ## Spellings of a path -/

theorem lowerChar_eq_slash (c : Char) : lowerChar c = '/' ↔ c = '/' := lowerChar_eq_iff (by decide)

theorem lowerChar_eq_point (c : Char) : lowerChar c = '.' ↔ c = '.' := lowerChar_eq_iff (by decide)

theorem isMisshapen_lower (name : List Char) : isMisshapen (lower name) = isMisshapen name := by
  rw [isMisshapen, pieces_lower lowerChar_eq_slash, List.any_map]
  congr 1
  funext step
  rw [Bool.eq_iff_iff]
  match step with
  | [] => simp [lower]
  | [c] => simp [lower, lowerChar_eq_point]
  | [c, d] => simp [lower, lowerChar_eq_point]
  | c :: d :: e :: rest => simp [lower]

theorem folders_lower (name : List Char) : folders (lower name) = (folders name).map lower := by
  rw [folders, pieces_lower lowerChar_eq_slash, ← List.map_dropLast, List.flatMap_map]
  simp only [pieces_lower lowerChar_eq_point, folders, List.map_flatMap]

theorem isFolder_lower {zones : List Zone} {name : List Char} (folder : isFolder zones name = true) :
    ∃ zone ∈ zones, (lower name ++ ['/']).isPrefixOf (lowerName zone.name) = true := by
  obtain ⟨zone, member, below⟩ := List.any_eq_true.mp folder
  refine ⟨zone, member, ?_⟩
  have lowered := (List.isPrefixOf_iff_prefix.mp below).map lowerChar
  rw [List.map_append] at lowered
  exact List.isPrefixOf_iff_prefix.mpr lowered

/-! ## Zones in files -/

/-- A well-shaped name leads through more folders than there is room for. -/
def IsDeep (room : Nat) (name : String) : Prop :=
  isMisshapen name.toList = false ∧ room ≤ (folders name.toList).length

/-- No zone is spelled like a folder of another. -/
def NoneLikeFolder (zones : List Zone) : Prop :=
  ∀ zone ∈ zones, ∀ other ∈ zones,
    (lowerName zone.name ++ ['/']).isPrefixOf (lowerName other.name) = false

variable {room : Nat} {zones : List Zone} {name key : String}

theorem load_ofZones_eq_unforeseen_iff :
    (ofZones room zones).load name = .error .unforeseen ↔ IsDeep room name := by
  simp only [ofZones, IsDeep]
  cases isMisshapen name.toList with
  | true => simp
  | false =>
    by_cases deep : room ≤ (folders name.toList).length
    · simp [deep]
    · cases zones.find? fun zone => zone.name == name with
      | none => cases isFolder zones name.toList <;> simp [deep]
      | some found => simp [deep]

theorem lawful_ofZones
    (shapely : ∀ zone ∈ zones,
      isMisshapen zone.name.toList = false ∧ (folders zone.name.toList).length < room)
    (distinct : ∀ key ∈ (ofZones room zones).keys, ∀ other ∈ (ofZones room zones).keys,
      lowerName key = lowerName other → key = other) : (ofZones room zones).Lawful lowerName where
  loads_iff name := by
    rw [ofZones, List.mem_map]
    constructor
    · rintro ⟨zone, loaded⟩
      obtain ⟨-, -, found⟩ := load_ofZones_eq_ok_iff.mp loaded
      exact ⟨zone, List.mem_of_find?_eq_some found, by simpa using List.find?_some found⟩
    · rintro ⟨zone, member, rfl⟩
      obtain ⟨shape, shallow⟩ := shapely zone member
      have isSome : (zones.find? fun other => other.name == zone.name).isSome = true :=
        List.find?_isSome.mpr ⟨zone, member, beq_self_eq_true _⟩
      obtain ⟨found, same⟩ := Option.isSome_iff_exists.mp isSome
      exact ⟨found, load_ofZones_eq_ok_iff.mpr ⟨shape, shallow, same⟩⟩
  distinct := distinct

/-- A name that is spelled like a key and is none is just not found: as the key is well shaped, no folder and
not deep, so is the name. -/
theorem Lawful.load_of_alike (lawful : (ofZones room zones).Lawful lowerName) (apart : NoneLikeFolder zones)
    (member : key ∈ (ofZones room zones).keys) (same : lowerName name = lowerName key) :
    name ∈ (ofZones room zones).keys ∨ (ofZones room zones).load name = .error .notFound := by
  by_cases named : name ∈ (ofZones room zones).keys
  · exact .inl named
  obtain ⟨zone, loaded⟩ := (lawful.loads_iff key).mpr member
  obtain ⟨keyShape, keyShallow, -⟩ := load_ofZones_eq_ok_iff.mp loaded
  have lowered : lower name.toList = lower key.toList := same
  have shape : isMisshapen name.toList = false := by
    rw [← isMisshapen_lower, lowered, isMisshapen_lower, keyShape]
  have depth : (folders name.toList).length = (folders key.toList).length := by
    rw [← List.length_map lower, ← folders_lower, lowered, folders_lower, List.length_map]
  have unfound : (zones.find? fun zone => zone.name == name) = none := by
    rw [List.find?_eq_none]
    intro zone listed same
    exact named (List.mem_map.mpr ⟨zone, listed, beq_iff_eq.mp same⟩)
  -- Were the name a folder, the key would be spelled like one.
  have plain : isFolder zones name.toList = false := by
    by_contra folder
    obtain ⟨other, otherMember, below⟩ := isFolder_lower (Bool.not_eq_false _ ▸ folder)
    obtain ⟨zone, zoneMember, rfl⟩ := List.mem_map.mp member
    rw [lowered] at below
    exact Bool.false_ne_true ((apart zone zoneMember other otherMember).symm.trans below)
  refine .inr ?_
  simp only [ofZones, shape, depth, unfound, plain, Nat.not_le_of_lt keyShallow, Bool.false_eq_true, if_false]

/-- Where zones are kept in files, only deep names fail to be told known or unknown. -/
theorem Lawful.knows_ofZones (lawful : (ofZones room zones).Lawful lowerName) (apart : NoneLikeFolder zones)
    (name : String) :
    ((ofZones room zones).knows lowerName name = .error .unforeseen ↔ IsDeep room name) ∧
      (¬ IsDeep room name → ∃ known, (ofZones room zones).knows lowerName name = .ok known ∧
        (known = true ↔ ∃ key ∈ (ofZones room zones).keys, lowerName name = lowerName key)) := by
  have fails : (ofZones room zones).knows lowerName name = .error .unforeseen ↔ IsDeep room name := by
    rw [lawful.knows_eq_error_iff, load_ofZones_eq_unforeseen_iff]
    exact and_iff_left rfl
  refine ⟨fails, fun shallow => ?_⟩
  match told : (ofZones room zones).knows lowerName name with
  | .error fault =>
    have unforeseen := (lawful.knows_eq_error_iff.mp told).2
    cases fault with
    | unforeseen => exact absurd (fails.mp told) shallow
    | notFound | malformed | unreadable => contradiction
  | .ok true => exact ⟨true, rfl, iff_of_true rfl (lawful.knows_iff.mp told).1⟩
  | .ok false =>
    refine ⟨false, rfl, iff_of_false Bool.false_ne_true ?_⟩
    rintro ⟨key, member, same⟩
    have known := lawful.knows_iff.mpr ⟨⟨key, member, same⟩, lawful.load_of_alike apart member same⟩
    rw [told] at known
    contradiction

end Registry

namespace Atlas

theorem registry_lawful : registry.Lawful lowerName :=
  Registry.lawful_ofZones (by decide +kernel) (by decide +kernel)

theorem noneLikeFolder_zones : Registry.NoneLikeFolder zones := by
  unfold Registry.NoneLikeFolder
  decide +kernel

theorem knows_of_isDeep {name : String} (deep : Registry.IsDeep room name) :
    registry.knows lowerName name = .error .unforeseen :=
  (registry_lawful.knows_ofZones noneLikeFolder_zones name).1.mpr deep

theorem build_of_isDeep {expression : Value} {strict : Bool} {schedule : Schedule} {name : String}
    (read : Schedule.readValue strict expression = .ok schedule) (deep : Registry.IsDeep room name) :
    Gate.build provider expression (.text name) strict = .error (.lookup .unforeseen) :=
  Gate.build_of_lookup_fault read (knows_of_isDeep deep)

end Atlas

/-- Asking for a name fails exactly where loading it fails in a way that is not foreseen. Otherwise a name is
known exactly if it is spelled like a key and either is one or is just not found as it stands. A known name
stands for the one zone of its folded form, asking for it and using it alike, and gates bound to known names
of one folded form decide alike. Where zones are kept in files, none of them spelled like a folder, the names
that fail are those of too many folders, and any other is known exactly if it is a key in some letter case.
The atlas is such a registry. -/
theorem Registry.names_stand_for_their_folded_form {α : Type} [DecidableEq α] (registry : Registry)
    (fold : String → α) (lawful : registry.Lawful fold) :
    (∀ name fault, registry.knows fold name = .error fault ↔
      registry.load name = .error fault ∧ fault.isForeseen = false) ∧
    (∀ name, registry.knows fold name = .ok true ↔
      (∃ key ∈ registry.keys, fold name = fold key) ∧
        (name ∈ registry.keys ∨ registry.load name = .error .notFound)) ∧
    (∀ name, registry.knows fold name = .ok true → ∀ key ∈ registry.keys, fold name = fold key →
      ∃ zone, registry.load key = .ok zone ∧ ∀ moment,
        registry.components fold name moment = registry.components fold key moment ∧
        registry.components fold key moment =
          match zone.components? moment with
          | some components => .ok components
          | none => .error .outOfCalendar) ∧
    (∀ lookupNotices,
      let provider := Provider.ofZones (registry.resolve fold) lookupNotices
      provider.knows = registry.knows fold ∧
      (∀ name moment, provider.project name moment = (registry.components fold name moment).toOption) ∧
      ∀ name other, fold name = fold other → provider.knows other = .ok true → ∀ expression strict gate,
        Gate.build provider expression (.text name) strict = .ok gate →
        ∃ otherGate, Gate.build provider expression (.text other) strict = .ok otherGate ∧
          ∀ candidate, gate.allows provider candidate = otherGate.allows provider candidate ∧
            gate.explain provider candidate = otherGate.explain provider candidate) ∧
    (∀ room zones, (ofZones room zones).Lawful Atlas.lowerName → NoneLikeFolder zones → ∀ name,
      ((ofZones room zones).knows Atlas.lowerName name = .error .unforeseen ↔ IsDeep room name) ∧
      (¬ IsDeep room name → ∃ known, (ofZones room zones).knows Atlas.lowerName name = .ok known ∧
        (known = true ↔ ∃ key ∈ (ofZones room zones).keys, Atlas.lowerName name = Atlas.lowerName key))) ∧
    (Atlas.registry = ofZones Atlas.room Atlas.zones ∧ Atlas.registry.Lawful Atlas.lowerName ∧
      NoneLikeFolder Atlas.zones) ∧
    Atlas.provider = .ofZones (Atlas.registry.resolve Atlas.lowerName) Atlas.lookupNotices := by
  refine ⟨fun name fault => lawful.knows_eq_error_iff, fun name => lawful.knows_iff, ?used, ?providers,
    fun _ _ files apart => files.knows_ofZones apart,
    ⟨rfl, Atlas.registry_lawful, Atlas.noneLikeFolder_zones⟩, rfl⟩
  case used =>
    intro name known key member same
    exact lawful.exists_components known member same
  case providers =>
    intro lookupNotices provider
    refine ⟨rfl, project_eq_components lookupNotices, ?_⟩
    intro name other same otherKnown expression strict gate built
    exact lawful.build_of_alike lookupNotices same otherKnown built

/-- In the atlas `AMERICA/toronto` stands for `America/Toronto` and `../utc` for nothing. -/
theorem Registry.names_stand_in_atlas :
    Atlas.registry.Lawful Atlas.lowerName ∧
    Atlas.registry.knows Atlas.lowerName "AMERICA/toronto" = .ok true ∧
    Atlas.registry.knows Atlas.lowerName "../utc" = .ok false ∧
    ∀ moment, Atlas.registry.components Atlas.lowerName "AMERICA/toronto" moment =
      Atlas.registry.components Atlas.lowerName "America/Toronto" moment := by
  obtain ⟨-, known, resolved, -, files, -, -⟩ := names_stand_for_their_folded_form _ _ Atlas.registry_lawful
  have listed : "America/Toronto" ∈ Atlas.registry.keys := by decide +kernel
  have same : Atlas.lowerName "AMERICA/toronto" = Atlas.lowerName "America/Toronto" := by decide +kernel
  have missing : Atlas.registry.load "AMERICA/toronto" = .error .notFound := by decide +kernel
  have told := (known _).mpr ⟨⟨_, listed, same⟩, .inr missing⟩
  refine ⟨Atlas.registry_lawful, told, ?_, fun moment => ?_⟩
  · have shallow : ¬ IsDeep Atlas.room "../utc" := fun deep => absurd deep.1 (by decide +kernel)
    have unlike : ¬ ∃ key ∈ Atlas.registry.keys, Atlas.lowerName "../utc" = Atlas.lowerName key := by
      decide +kernel
    obtain ⟨answer, asked, iff⟩ :=
      (files _ _ Atlas.registry_lawful Atlas.noneLikeFolder_zones "../utc").2 shallow
    have unknown : answer = false := Bool.eq_false_iff.mpr (mt iff.mp unlike)
    exact asked.trans (congrArg _ unknown)
  · obtain ⟨_, -, alike⟩ := resolved _ told _ listed same
    exact (alike moment).1

/-- A name below so many folders. -/
def Registry.nested : Nat → List Char
  | 0 => ['b']
  | depth + 1 => 'a' :: '/' :: nested depth

theorem Registry.pieces_nested (depth : Nat) :
    pieces '/' (nested depth) = List.replicate depth ['a'] ++ [['b']] := by
  induction depth with
  | zero => rfl
  | succ depth ih =>
    rw [List.replicate_succ, List.cons_append, ← ih]
    rfl

theorem Registry.isDeep_nested (room : Nat) : IsDeep room (.ofList (nested room)) := by
  rw [IsDeep, String.toList_ofList, isMisshapen, folders, pieces_nested, List.dropLast_concat]
  constructor
  · rw [List.any_append, List.any_replicate]
    split <;> rfl
  · rw [List.length_flatMap, List.map_replicate, List.sum_replicate_nat]
    exact Nat.le_mul_of_pos_right room (by decide)

/-- The name below 250 folders, none of which is there, is neither known nor unknown. -/
theorem Registry.deep_name_is_not_told :
    Atlas.registry.Lawful Atlas.lowerName ∧
    (¬ ∃ known, Atlas.registry.knows Atlas.lowerName (.ofList (nested 250)) = .ok known) ∧
    Gate.build Atlas.provider (.text "* * * * *") (.text (.ofList (nested 250))) false =
      .error (.lookup .unforeseen) := by
  have deep : IsDeep Atlas.room (.ofList (nested 250)) := isDeep_nested 250
  refine ⟨Atlas.registry_lawful, ?_, Atlas.build_of_isDeep rfl deep⟩
  rintro ⟨known, told⟩
  rw [Atlas.knows_of_isDeep deep] at told
  contradiction

end TimeGate
