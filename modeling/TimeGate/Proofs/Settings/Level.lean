import TimeGate.Proofs.Settings.Choice

/-! Settings files that differ in the text of the level. Nothing else that is loaded from them differs: the
same fault is found in both, or the same settings, the level aside. -/

set_option autoImplicit false

namespace TimeGate

/-! ## Entries that differ under one key -/

/-- Entries with the same keys in the same order, and the same values but for some under one key. -/
inductive Shape.ApartAt (name : String) (apart : Value → Value → Prop) : Entries → Entries → Prop where
  | nil : ApartAt name apart [] []
  | same {rest others : Entries} (entry : Scalar × Value) : ApartAt name apart rest others →
      ApartAt name apart (entry :: rest) (entry :: others)
  | changed {rest others : Entries} {value other : Value} : apart value other →
      ApartAt name apart rest others →
      ApartAt name apart ((.text name, value) :: rest) ((.text name, other) :: others)

section Apart

variable {name : String} {apart : Value → Value → Prop} {entries others : Shape.Entries}

theorem Shape.ApartAt.lookupText_of_ne (differ : ApartAt name apart entries others) {key : String}
    (distinct : key ≠ name) : lookupText key others = lookupText key entries := by
  induction differ with
  | nil => rfl
  | same entry _ ih =>
    obtain ⟨found, value⟩ := entry
    rw [lookupText_cons, lookupText_cons, ih]
  | changed _ _ ih =>
    have other : Scalar.text name ≠ .text key := fun equal => distinct (Scalar.text.inj equal).symm
    rw [lookupText_cons, lookupText_cons, if_neg other, if_neg other, ih]

theorem Shape.ApartAt.lookupText_cases (differ : ApartAt name apart entries others) :
    lookupText name others = lookupText name entries ∨
      ∃ value other, lookupText name entries = some value ∧ lookupText name others = some other ∧
        apart value other := by
  induction differ with
  | nil => exact .inl rfl
  | same entry _ ih =>
    obtain ⟨found, value⟩ := entry
    rw [lookupText_cons, lookupText_cons]
    split
    · exact .inl rfl
    · exact ih
  | @changed _ _ value other differs _ _ =>
    rw [lookupText_cons, lookupText_cons, if_pos rfl, if_pos rfl]
    exact .inr ⟨value, other, rfl, rfl, differs⟩

theorem Shape.ApartAt.all_isTextKey_eq (differ : ApartAt name apart entries others) :
    others.all Settings.isTextKey = entries.all Settings.isTextKey := by
  induction differ with
  | nil => rfl
  | same entry _ ih => rw [List.all_cons, List.all_cons, ih]
  | changed _ _ ih =>
    rw [List.all_cons, List.all_cons, ih]
    rfl

theorem Shape.ApartAt.someEntryEndless_eq (differ : ApartAt name apart entries others)
    (alike : ∀ value other, apart value other → other.isEndless = value.isEndless) :
    Value.someEntryEndless others = Value.someEntryEndless entries := by
  induction differ with
  | nil => rfl
  | same entry _ ih =>
    obtain ⟨found, value⟩ := entry
    rw [Value.someEntryEndless, Value.someEntryEndless, ih]
  | @changed _ _ value other differs _ ih =>
    rw [Value.someEntryEndless, Value.someEntryEndless, ih, alike value other differs]

end Apart

namespace Settings

/-! ## Documents that differ in the level -/

inductive TextsApart : Value → Value → Prop where
  | texts (text other : String) : TextsApart (.text text) (.text other)

inductive PartsApart : Value → Value → Prop where
  | parts {part other : Shape.Entries} : Shape.ApartAt "level" TextsApart part other →
      PartsApart (.map part) (.map other)

/-- Entries of documents that differ in nothing but in the text of the level in the part on logging. -/
def LevelApart : Shape.Entries → Shape.Entries → Prop := Shape.ApartAt "logging" PartsApart

def withLevel (settings : Settings) (level : String) : Settings := { settings with level := level }

/-- Loading fails alike, or yields the same settings, the level aside. -/
inductive ResultsApart : Except LoadError Settings → Except LoadError Settings → Prop where
  | failed (e : LoadError) : ResultsApart (.error e) (.error e)
  | loaded (settings : Settings) (level : String) :
      ResultsApart (.ok settings) (.ok (settings.withLevel level))

/-- Loading that differs in the level and in what is reported only. -/
structure LoadsApart (loaded other : Loaded) : Prop where
  result : ResultsApart loaded.result other.result
  environment : other.environment = loaded.environment

section Documents

variable {entries others : Shape.Entries}

theorem LevelApart.someEntryEndless_eq (apart : LevelApart entries others) :
    Value.someEntryEndless others = Value.someEntryEndless entries := by
  refine Shape.ApartAt.someEntryEndless_eq apart ?_
  rintro _ _ ⟨parts⟩
  rw [Value.isEndless, Value.isEndless]
  refine parts.someEntryEndless_eq ?_
  rintro _ _ ⟨text, other⟩
  rfl

theorem checkLevel_cases {part other : Shape.Entries} (apart : Shape.ApartAt "level" TextsApart part other)
    (environment : Environment) :
    checkLogging (Interpolation.resolve environment (.map other)) =
        checkLogging (Interpolation.resolve environment (.map part)) ∨
      ∃ level next, checkLogging (Interpolation.resolve environment (.map part)) = .ok level ∧
        checkLogging (Interpolation.resolve environment (.map other)) = .ok next := by
  simp only [Interpolation.resolve, checkLogging_map, Shape.optional, lookupText_resolveEntries]
  obtain same | ⟨_, _, here, there, ⟨text, next⟩⟩ := apart.lookupText_cases
  · rw [same]
    exact .inl rfl
  · rw [here, there]
    exact .inr ⟨_, _, rfl, rfl⟩

theorem LevelApart.logging_cases (apart : LevelApart entries others) (environment : Environment) :
    let check := Shape.optional "logging" defaultLevel checkLogging
    check (effective environment others) = check (effective environment entries) ∨
      ∃ level next, check (effective environment entries) = .ok level ∧
        check (effective environment others) = .ok next := by
  simp only [Shape.optional, lookup_logging]
  obtain same | ⟨_, _, here, there, ⟨parts⟩⟩ := Shape.ApartAt.lookupText_cases apart
  · rw [same]
    exact .inl rfl
  · rw [here, there]
    simp only [Option.map_some]
    obtain same | ⟨level, next, first, second⟩ := checkLevel_cases parts environment
    · rw [same]
      exact .inl rfl
    · rw [first, second]
      exact .inr ⟨level, next, rfl, rfl⟩

theorem LevelApart.checkEntries_cases (apart : LevelApart entries others) (environment : Environment) :
    checkEntries (effective environment others) = checkEntries (effective environment entries) ∨
      ∃ settings level, checkEntries (effective environment entries) = .ok settings ∧
        checkEntries (effective environment others) = .ok (settings.withLevel level) := by
  have timezone : Shape.optional "timezone" defaultTimezone Shape.text (effective environment others) =
      Shape.optional "timezone" defaultTimezone Shape.text (effective environment entries) := by
    have elsewhere : lookupText "timezone" others = lookupText "timezone" entries :=
      Shape.ApartAt.lookupText_of_ne apart (by decide)
    simp only [Shape.optional, lookup_timezone, elsewhere]
  have strict : Shape.optional "strict" false Shape.truth (effective environment others) =
      Shape.optional "strict" false Shape.truth (effective environment entries) := by
    have elsewhere : lookupText "strict" others = lookupText "strict" entries :=
      Shape.ApartAt.lookupText_of_ne apart (by decide)
    simp only [Shape.optional, lookup_strict, elsewhere]
  rw [checkEntries_eq, checkEntries_eq, timezone, strict]
  -- The two can differ in the level alone, and an issue elsewhere hides even that.
  obtain same | ⟨level, next, first, second⟩ := apart.logging_cases environment
  · rw [same]
    exact .inl rfl
  · rw [first, second]
    cases Shape.optional "timezone" defaultTimezone Shape.text (effective environment entries) with
    | error issues =>
      cases Shape.optional "strict" false Shape.truth (effective environment entries) <;> exact .inl rfl
    | ok zone =>
      cases Shape.optional "strict" false Shape.truth (effective environment entries) with
      | error issues => exact .inl rfl
      | ok switch => exact .inr ⟨⟨zone, switch, level⟩, next, rfl, rfl⟩

theorem ResultsApart.refl (result : Except LoadError Settings) : ResultsApart result result := by
  cases result with
  | error e => exact .failed e
  | ok settings => exact .loaded settings settings.level

theorem LevelApart.ofEntries_apart (apart : LevelApart entries others) (environment : Environment) :
    ResultsApart (ofEntries environment entries) (ofEntries environment others) := by
  have keys := Shape.ApartAt.all_isTextKey_eq apart
  rw [ofEntries_eq, ofEntries_eq, apart.someEntryEndless_eq, keys]
  split
  · exact .failed .endless
  · split
    · exact .failed .keyNotText
    · obtain same | ⟨settings, level, first, second⟩ := apart.checkEntries_cases environment
      · rw [same]
        exact .refl _
      · rw [first, second]
        exact .loaded settings level

end Documents

/-! ## Documents that say the level and nothing else -/

def sole? (name : String) : Value → Option Value
  | .map [(key, value)] => if key = .text name then some value else none
  | _ => none

def text? : Value → Option String
  | .text text => some text
  | _ => none

def soleLevel? (document : Value) : Option String :=
  ((sole? "logging" document).bind (sole? "level")).bind text?

def levelDocument (level : String) : Value :=
  .map [Shape.entry "logging" (.map [Shape.entry "level" (.text level)])]

theorem sole?_eq_some_iff {name : String} {value part : Value} :
    sole? name value = some part ↔ value = .map [Shape.entry name part] := by
  constructor
  · intro found
    unfold sole? at found
    split at found
    · split at found
      · next same =>
        cases found
        rw [same]
        rfl
      · contradiction
    · contradiction
  · rintro rfl
    exact if_pos rfl

theorem text?_eq_some_iff {value : Value} {text : String} : text? value = some text ↔ value = .text text := by
  constructor
  · intro found
    unfold text? at found
    split at found
    · cases found
      rfl
    · contradiction
  · rintro rfl
    rfl

theorem soleLevel?_eq_some_iff {document : Value} {level : String} :
    soleLevel? document = some level ↔ document = levelDocument level := by
  simp only [soleLevel?, Option.bind_eq_some_iff, sole?_eq_some_iff, text?_eq_some_iff]
  constructor
  · rintro ⟨_, ⟨_, rfl, rfl⟩, rfl⟩
    rfl
  · rintro rfl
    exact ⟨_, ⟨_, rfl, rfl⟩, rfl⟩

/-- Values cannot be compared by evaluation, so what is evaluated is the level that a document says. -/
theorem readDocument_of_soleLevel {look : Path → Found} {path : Path} {level : String}
    (sole : ((readDocument look path).toOption.bind id).bind soleLevel? = some level) :
    readDocument look path = .ok (some (levelDocument level)) := by
  obtain ⟨document, holds, said⟩ := Option.bind_eq_some_iff.mp sole
  obtain ⟨_, read, rfl⟩ := Option.bind_eq_some_iff.mp holds
  rw [Traversal.eq_ok_of_toOption read, soleLevel?_eq_some_iff.mp said]

end Settings

/-! ## Surroundings that differ in the level -/

/-- The environment file is the same in both surroundings, and the settings files differ in nothing but in the
text of the level. -/
structure Surroundings.LevelApart (here there : Surroundings) (sources : Settings.Sources) : Prop where
  environmentFile : there.look sources.environment = here.look sources.environment
  settingsFile : ∃ entries others,
    Settings.readDocument here.look sources.settings = .ok (some (.map entries)) ∧
    Settings.readDocument there.look sources.settings = .ok (some (.map others)) ∧
    Settings.LevelApart entries others

theorem Settings.loadEnvironment_congr {here there : Surroundings} {path : Path}
    (environment : there.environment = here.environment) (file : there.look path = here.look path) :
    loadEnvironment there path = loadEnvironment here path := by
  rw [loadEnvironment, loadEnvironment, environment, file]

theorem Settings.load_apart {here there : Surroundings} {settingsPath environmentPath : Option String}
    (environment : there.environment = here.environment) (account : there.accountHome = here.accountHome)
    (apart : ∀ sources,
      sources? here.environment here.accountHome settingsPath environmentPath = some sources →
      here.LevelApart there sources) :
    LoadsApart (load here settingsPath environmentPath) (load there settingsPath environmentPath) := by
  rw [load, load, environment, account]
  cases found : sources? here.environment here.accountHome settingsPath environmentPath with
  | none => exact ⟨.failed .homeUnknown, rfl⟩
  | some sources =>
    obtain ⟨file, entries, others, first, second, documents⟩ := apart sources found
    simp only [loadEnvironment_congr environment file]
    match loadEnvironment here sources.environment with
    | (.error e, left, notices) => exact ⟨.failed e, rfl⟩
    | (.ok (), left, notices) =>
      simp only [loadDocument, first, second, entriesOf]
      exact ⟨documents.ofEntries_apart left, rfl⟩

end TimeGate
