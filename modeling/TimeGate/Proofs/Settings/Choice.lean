import TimeGate.Proofs.Shape.Parts
import TimeGate.Proofs.Traversal
import TimeGate.Settings.Load

/-! The value that decides each setting. A variable goes before the document, also if it is empty, and is
taken as it stands; the document goes before the default, and its references are resolved. What a variable
replaces is not checked. -/

set_option autoImplicit false

namespace TimeGate

/-! ## Looking up in changed entries -/

theorem lookupText_cons (name : String) (key : Scalar) (value : Value) (rest : Shape.Entries) :
    lookupText name ((key, value) :: rest) =
      if key = .text name then some value else lookupText name rest := by
  unfold lookupText
  rw [List.find?_cons]
  by_cases same : key = .text name
  · rw [if_pos same, same, beq_self_eq_true]
    rfl
  · rw [if_neg same, beq_false_of_ne same]

theorem lookupText_filter {name other : String} (distinct : other ≠ name) (entries : Shape.Entries) :
    lookupText other (entries.filter fun entry => entry.1 != .text name) = lookupText other entries := by
  unfold lookupText
  rw [List.find?_filter]
  congr 2
  funext entry
  by_cases here : entry.1 = .text other <;> simp [here, distinct]

theorem lookupText_resolveEntries (environment : Environment) (name : String) (entries : Shape.Entries) :
    lookupText name (Interpolation.resolveEntries environment entries) =
      (lookupText name entries).map (Interpolation.resolve environment) := by
  induction entries with
  | nil => simp [Interpolation.resolveEntries, lookupText]
  | cons entry rest ih =>
    obtain ⟨key, value⟩ := entry
    rw [Interpolation.resolveEntries, lookupText_cons, lookupText_cons, ih]
    split <;> rfl

theorem resolve_ne_map (environment : Environment) {value : Value} (noMap : ∀ part, value ≠ .map part)
    (part : Shape.Entries) : Interpolation.resolve environment value ≠ .map part := by
  cases value with
  | scalar leaf => cases leaf <;> simp [Interpolation.resolve]
  | list items => simp [Interpolation.resolve]
  | map written => exact absurd rfl (noMap written)

namespace Settings

theorem lookupText_putText (entries : Shape.Entries) (name other : String) (text : Option String) :
    lookupText other (putText entries name text) =
      if other = name then (text.map Value.text).or (lookupText name entries)
      else lookupText other entries := by
  by_cases same : other = name
  · rw [if_pos same, same]
    cases text with
    | none => rfl
    | some text =>
      rw [putText, Shape.entry, lookupText_cons, if_pos rfl]
      rfl
  · rw [if_neg same]
    cases text with
    | none => rfl
    | some text =>
      have apart : Scalar.text name ≠ .text other := fun equal => same (Scalar.text.inj equal).symm
      rw [putText, Shape.entry, lookupText_cons, if_neg apart, lookupText_filter same]

theorem all_isTextKey_putText (entries : Shape.Entries) (name : String) (text : Option String) :
    (putText entries name text).all isTextKey = entries.all isTextKey := by
  cases text with
  | none => rfl
  | some text =>
    have named : isTextKey (Shape.entry name (.text text)) = true := rfl
    rw [putText, List.all_cons, List.all_filter, named, Bool.true_and]
    congr 1
    funext entry
    by_cases here : entry.1 = .text name <;> simp [here, isTextKey]

theorem all_isTextKey_resolveEntries (environment : Environment) (entries : Shape.Entries) :
    (Interpolation.resolveEntries environment entries).all isTextKey = entries.all isTextKey := by
  induction entries with
  | nil => simp [Interpolation.resolveEntries]
  | cons entry rest ih =>
    obtain ⟨key, value⟩ := entry
    rw [Interpolation.resolveEntries, List.all_cons, List.all_cons, ih]
    rfl

/-! ## What decides a setting -/

/-- The value that decides a setting: the text of the variable of a name if that is set, or else what the
document says, with its references resolved. -/
def deciding (environment : Environment) (name : String) (said : Option Value) : Option Value :=
  match environment.get? name with
  | some text => some (.text text)
  | none => said.map (Interpolation.resolve environment)

/-- What entries say of the level, if they have no part on logging or a map for it. -/
inductive SaysLevel (entries : Shape.Entries) : Option Value → Prop where
  | nothing : lookupText "logging" entries = none → SaysLevel entries none
  | part {part : Shape.Entries} : lookupText "logging" entries = some (.map part) →
      SaysLevel entries (lookupText "level" part)

/-- The settings that the entries of a document yield in an environment. -/
structure Yields (environment : Environment) (entries : Shape.Entries) (settings : Settings) : Prop where
  timezone : Shape.Settles Shape.text "UTC"
    (deciding environment "CRONRANGE_TIMEZONE" (lookupText "timezone" entries)) settings.timezone
  strict : Shape.Settles Shape.truth false
    (deciding environment "CRONRANGE_STRICT" (lookupText "strict" entries)) settings.strict
  level : ∃ said, SaysLevel entries said ∧
    Shape.Settles Shape.text "WARNING" (said.map (Interpolation.resolve environment)) settings.level

/-- Something that decides a setting fails its check, or the part on logging is no map. -/
inductive Amiss (environment : Environment) (entries : Shape.Entries) : Prop where
  | timezone {value : Value} :
      deciding environment "CRONRANGE_TIMEZONE" (lookupText "timezone" entries) = some value →
      (Shape.text value).Fails → Amiss environment entries
  | strict {value : Value} :
      deciding environment "CRONRANGE_STRICT" (lookupText "strict" entries) = some value →
      (Shape.truth value).Fails → Amiss environment entries
  | level {said : Value} : SaysLevel entries (some said) →
      (Shape.text (Interpolation.resolve environment said)).Fails → Amiss environment entries
  | logging {value : Value} : lookupText "logging" entries = some value →
      (∀ part, value ≠ .map part) → Amiss environment entries

/-- The entries that are checked. -/
def effective (environment : Environment) (entries : Shape.Entries) : Shape.Entries :=
  override environment (Interpolation.resolveEntries environment entries)

section Deciding

variable {environment : Environment} {entries : Shape.Entries}

theorem lookup_timezone : lookupText "timezone" (effective environment entries) =
    deciding environment "CRONRANGE_TIMEZONE" (lookupText "timezone" entries) := by
  rw [effective, override, lookupText_putText, if_neg (by decide), lookupText_putText, if_pos rfl,
    lookupText_resolveEntries, deciding, timezoneVariable]
  cases environment.get? "CRONRANGE_TIMEZONE" <;> rfl

theorem lookup_strict : lookupText "strict" (effective environment entries) =
    deciding environment "CRONRANGE_STRICT" (lookupText "strict" entries) := by
  rw [effective, override, lookupText_putText, if_pos rfl, lookupText_putText, if_neg (by decide),
    lookupText_resolveEntries, deciding, strictVariable]
  cases environment.get? "CRONRANGE_STRICT" <;> rfl

theorem lookup_logging : lookupText "logging" (effective environment entries) =
    (lookupText "logging" entries).map (Interpolation.resolve environment) := by
  rw [effective, override, lookupText_putText, if_neg (by decide), lookupText_putText, if_neg (by decide),
    lookupText_resolveEntries]

theorem all_isTextKey_effective (environment : Environment) (entries : Shape.Entries) :
    (effective environment entries).all isTextKey = entries.all isTextKey := by
  rw [effective, override, all_isTextKey_putText, all_isTextKey_putText, all_isTextKey_resolveEntries]

theorem ofEntries_eq (environment : Environment) (entries : Shape.Entries) :
    ofEntries environment entries =
      if Value.someEntryEndless entries then .error .endless
      else if !entries.all isTextKey then .error .keyNotText
      else match checkEntries (effective environment entries) with
        | .ok settings => .ok settings
        | .error issues => .error (.invalid issues) := by
  rw [← all_isTextKey_effective environment]
  rfl

theorem checkLogging_map (part : Shape.Entries) :
    checkLogging (.map part) = Shape.optional "level" defaultLevel Shape.text part := rfl

theorem fails_checkLogging {value : Value} (noMap : ∀ part, value ≠ .map part) :
    (checkLogging value).Fails := by
  cases value with
  | scalar leaf => exact ⟨_, rfl⟩
  | list items => exact ⟨_, rfl⟩
  | map part => exact absurd rfl (noMap part)

/-- There is no part on logging, or it is a map, or it is something else. -/
theorem logging_cases (entries : Shape.Entries) :
    lookupText "logging" entries = none ∨ (∃ part, lookupText "logging" entries = some (.map part)) ∨
      ∃ value, lookupText "logging" entries = some value ∧ ∀ part, value ≠ .map part := by
  cases lookupText "logging" entries with
  | none => exact .inl rfl
  | some value =>
    cases value with
    | map part => exact .inr (.inl ⟨part, rfl⟩)
    | scalar leaf => exact .inr (.inr ⟨_, rfl, fun part same => by contradiction⟩)
    | list items => exact .inr (.inr ⟨_, rfl, fun part same => by contradiction⟩)

theorem saysLevel_of_absent (absent : lookupText "logging" entries = none) {said : Option Value} :
    SaysLevel entries said ↔ said = none := by
  constructor
  · rintro (_ | present)
    · rfl
    · simp [absent] at present
  · rintro rfl
    exact .nothing absent

theorem saysLevel_of_part {part : Shape.Entries} (present : lookupText "logging" entries = some (.map part))
    {said : Option Value} : SaysLevel entries said ↔ said = lookupText "level" part := by
  constructor
  · rintro (absent | found)
    · simp [present] at absent
    · rw [present] at found
      cases found
      rfl
  · rintro rfl
    exact .part present

theorem not_saysLevel {value : Value} (present : lookupText "logging" entries = some value)
    (noMap : ∀ part, value ≠ .map part) {said : Option Value} : ¬ SaysLevel entries said := by
  rintro (absent | found)
  · simp [present] at absent
  · exact noMap _ (Option.some.inj (present.symm.trans found))

theorem settles_logging_iff {level : String} :
    Shape.Settles checkLogging defaultLevel
        ((lookupText "logging" entries).map (Interpolation.resolve environment)) level ↔
      ∃ said, SaysLevel entries said ∧
        Shape.Settles Shape.text "WARNING" (said.map (Interpolation.resolve environment)) level := by
  rcases logging_cases entries with absent | ⟨part, present⟩ | ⟨value, present, noMap⟩
  · simp only [absent, saysLevel_of_absent absent, exists_eq_left]
    constructor <;>
    · rintro ⟨⟩
      exact .absent
  · simp only [present, saysLevel_of_part present, exists_eq_left]
    rw [Option.map_some, Shape.settles_some_iff, Interpolation.resolve, checkLogging_map,
      Shape.optional_eq_ok_iff, lookupText_resolveEntries]
    rfl
  · obtain ⟨issues, failed⟩ := fails_checkLogging (resolve_ne_map environment noMap)
    simp [present, Shape.settles_some_iff, failed, not_saysLevel present noMap]

theorem fails_logging_iff :
    (∃ value, (lookupText "logging" entries).map (Interpolation.resolve environment) = some value ∧
        (checkLogging value).Fails) ↔
      (∃ said, SaysLevel entries (some said) ∧
        (Shape.text (Interpolation.resolve environment said)).Fails) ∨
      ∃ value, lookupText "logging" entries = some value ∧ ∀ part, value ≠ .map part := by
  rcases logging_cases entries with absent | ⟨part, present⟩ | ⟨value, present, noMap⟩
  · simp [absent, saysLevel_of_absent absent]
  · simp only [present, saysLevel_of_part present, Option.map_some, Option.some.injEq, exists_eq_left',
      Interpolation.resolve, checkLogging_map, Shape.fails_optional_iff, lookupText_resolveEntries]
    cases lookupText "level" part <;> simp
  · have fails := fails_checkLogging (resolve_ne_map environment noMap)
    simp [present, fails, not_saysLevel present noMap, noMap]

theorem checkEntries_eq (entries : Shape.Entries) :
    checkEntries entries =
      ((Shape.optional "timezone" defaultTimezone Shape.text entries).both
        ((Shape.optional "strict" false Shape.truth entries).both
          (Shape.optional "logging" defaultLevel checkLogging entries))).map
        fun parts => ⟨parts.1, parts.2.1, parts.2.2⟩ := by
  unfold checkEntries
  generalize Checked.both _ _ = outcome
  cases outcome <;> rfl

theorem checkEntries_eq_ok_iff {settings : Settings} :
    checkEntries (effective environment entries) = .ok settings ↔ Yields environment entries settings := by
  simp only [checkEntries_eq, Traversal.map_eq_ok_iff, Prod.exists, Checked.both_eq_ok_iff,
    Shape.optional_eq_ok_iff, lookup_timezone, lookup_strict, lookup_logging, settles_logging_iff]
  constructor
  · rintro ⟨timezone, strict, level, ⟨first, second, third⟩, rfl⟩
    exact ⟨first, second, third⟩
  · rintro ⟨first, second, third⟩
    exact ⟨_, _, _, ⟨first, second, third⟩, rfl⟩

theorem fails_checkEntries_iff :
    (checkEntries (effective environment entries)).Fails ↔ Amiss environment entries := by
  simp only [checkEntries_eq, Checked.fails_map_iff, Checked.fails_both_iff, Shape.fails_optional_iff,
    lookup_timezone, lookup_strict, lookup_logging, fails_logging_iff]
  constructor
  · rintro (⟨value, decides, fails⟩ | ⟨value, decides, fails⟩ | ⟨said, found, fails⟩ |
      ⟨value, present, noMap⟩)
    · exact .timezone decides fails
    · exact .strict decides fails
    · exact .level found fails
    · exact .logging present noMap
  · rintro (⟨decides, fails⟩ | ⟨decides, fails⟩ | ⟨found, fails⟩ | ⟨present, noMap⟩)
    · exact .inl ⟨_, decides, fails⟩
    · exact .inr (.inl ⟨_, decides, fails⟩)
    · exact .inr (.inr (.inl ⟨_, found, fails⟩))
    · exact .inr (.inr (.inr ⟨_, present, noMap⟩))

end Deciding

/-- Entries that say the same of every setting, whatever else they hold. -/
structure SayAlike (entries others : Shape.Entries) : Prop where
  timezone : lookupText "timezone" others = lookupText "timezone" entries
  strict : lookupText "strict" others = lookupText "strict" entries
  level : ∀ said, SaysLevel others said ↔ SaysLevel entries said

theorem SayAlike.yields_iff {entries others : Shape.Entries} (alike : SayAlike entries others)
    {environment : Environment} {settings : Settings} :
    Yields environment others settings ↔ Yields environment entries settings := by
  constructor
  · rintro ⟨timezone, strict, said, found, level⟩
    rw [alike.timezone] at timezone
    rw [alike.strict] at strict
    exact ⟨timezone, strict, said, (alike.level said).mp found, level⟩
  · rintro ⟨timezone, strict, said, found, level⟩
    rw [← alike.timezone] at timezone
    rw [← alike.strict] at strict
    exact ⟨timezone, strict, said, (alike.level said).mpr found, level⟩

theorem Yields.timezone_of_variable {environment : Environment} {entries : Shape.Entries}
    {settings : Settings} {text : String} (yields : Yields environment entries settings)
    (set : environment.get? "CRONRANGE_TIMEZONE" = some text) : settings.timezone = text := by
  have settles := yields.timezone
  rw [deciding, set, Shape.settles_some_iff] at settles
  exact (Except.ok.inj settles).symm

end Settings

end TimeGate
