import TimeGate.Proofs.Command.Ending
import TimeGate.Proofs.Command.Words
import TimeGate.Proofs.Settings.Level
import TimeGate.Proofs.Settings.Precedence

/-! The level of reporting has no part in what a run decides. Runs that differ in the level alone end alike
and print the same, unless a level breaks one of them off; a text that stands for nothing counts as the level
of warnings. -/

set_option autoImplicit false

namespace TimeGate.Command

/-! ## Texts for levels -/

def levelNames : List String :=
  ["CRITICAL", "FATAL", "ERROR", "WARNING", "WARN", "INFO", "DEBUG", "NOTSET"]

/-- The upper-case form of the text stands for something that is no level. -/
inductive Misleads (level : String) : LevelError → Prop where
  | notLevel : String.ofList (Text.upper level.toList) = "BASIC_FORMAT" → Misleads level .notLevel
  | notNamed : String.ofList (Text.upper level.toList) = "_STYLES" → Misleads level .notNamed

/-- The upper-case form of the text stands for no level and for nothing else. -/
structure StandsForNothing (level : String) : Prop where
  unnamed : String.ofList (Text.upper level.toList) ∉ levelNames
  isLevelText : IsLevelText level

theorem levelRank_eq_error_iff {level : String} {e : LevelError} :
    levelRank level = .error e ↔ Misleads level e := by
  constructor
  · intro failed
    unfold levelRank at failed
    split at failed
    case h_7 same =>
      cases failed
      exact .notLevel same
    case h_8 same =>
      cases failed
      exact .notNamed same
    all_goals exact nomatch failed
  · rintro (same | same)
    · simp only [levelRank, same]
    · simp only [levelRank, same]

theorem levelRank_of_nothing {level : String} (nothing : StandsForNothing level) :
    levelRank level = levelRank "WARNING" := by
  have warning : levelRank "WARNING" = .ok 30 := by decide +kernel
  rw [warning]
  unfold levelRank
  split
  case h_7 same => exact absurd same nothing.isLevelText.1
  case h_8 same => exact absurd same nothing.isLevelText.2
  case h_9 => rfl
  all_goals
    next same => exact absurd (same ▸ by decide) nothing.unnamed

/-! ## Outcomes -/

/-- Outcomes that differ in nothing but in what is reported. -/
structure Outcome.Alike (outcome other : Outcome) : Prop where
  ending : other.ending = outcome.ending
  stdout : other.stdout = outcome.stdout
  environment : other.environment = outcome.environment

def Ending.code? : Ending → Option Nat
  | .status code => some code
  | .broken _ => none

def Ending.levelError? : Ending → Option LevelError
  | .broken (.level e) => some e
  | _ => none

/-- Why the run is broken off at its level, if it is. -/
def Outcome.levelError? (outcome : Outcome) : Option LevelError := outcome.ending.levelError?

theorem Ending.code?_eq_some_iff {ending : Ending} {code : Nat} :
    ending.code? = some code ↔ ending = .status code := by
  cases ending <;> simp [code?]

theorem Ending.levelError?_eq_some_iff {ending : Ending} {e : LevelError} :
    ending.levelError? = some e ↔ ending = .broken (.level e) := by
  cases ending with
  | status code => simp [levelError?]
  | broken cause => cases cause <;> simp [levelError?]

theorem Outcome.Alike.levelError?_eq {outcome other : Outcome} (alike : outcome.Alike other) :
    other.levelError? = outcome.levelError? := by
  rw [Outcome.levelError?, Outcome.levelError?, alike.ending]

section Usage

variable (environment : Environment) (before : String) (error : UsageError)

@[simp] theorem usageOutcome_ending :
    (usageOutcome environment before error).ending = .status usageStatus := rfl

@[simp] theorem usageOutcome_stdout : (usageOutcome environment before error).stdout = "" := rfl

@[simp] theorem usageOutcome_environment :
    (usageOutcome environment before error).environment = environment := rfl

@[simp] theorem usageOutcome_levelError? :
    (usageOutcome environment before error).levelError? = none := rfl

end Usage

theorem usageOutcome_alike (environment : Environment) (before after : String) (error other : UsageError) :
    (usageOutcome environment before error).Alike (usageOutcome environment after other) := by
  constructor <;> simp

/-! ## Once the settings are loaded -/

section Loaded

variable {setting : Setting} {arguments : Arguments} {settings : Settings} {environment : Environment}
  {early : String}

theorem judge_ne_level {plan : Plan} {ending : Ending}
    (judged : (judge setting.provider plan).ending = .ok ending) (e : LevelError) :
    ending ≠ .broken (.level e) := by
  rintro rfl
  simp only [judge] at judged
  split at judged
  · simp at judged
  · simp at judged
  · simp at judged
  · split at judged <;> simp at judged

theorem levelError?_runWith_eq_some_iff {e : LevelError} :
    (runWith setting arguments settings environment early).levelError? = some e ↔
      levelRank (chosenLevel arguments settings) = .error e := by
  cases ranked : levelRank (chosenLevel arguments settings) with
  | error found => simp [runWith, ranked, Outcome.levelError?, Ending.levelError?]
  | ok least =>
    refine iff_of_false ?_ (by simp)
    simp only [runWith, ranked]
    cases readOccasion setting.now arguments.instant with
    | absent => simp [Outcome.levelError?, Ending.levelError?]
    | unreadable text => simp
    | read occasion =>
      dsimp only
      split
      · simp
      · next ending judged => exact mt Ending.levelError?_eq_some_iff.mp (judge_ne_level judged e)

/-- A level has no part in anything but in what is reported, unless it breaks the run off. -/
theorem runWith_alike {given : Option Given} {level late : String}
    (same : (runWith setting (arguments.withLevel given) (settings.withLevel level) environment
        late).levelError? =
      (runWith setting arguments settings environment early).levelError?) :
    (runWith setting arguments settings environment early).Alike
      (runWith setting (arguments.withLevel given) (settings.withLevel level) environment late) := by
  have plans (occasion : Occasion) : planOf (arguments.withLevel given) (settings.withLevel level) occasion =
      planOf arguments settings occasion := rfl
  -- Both levels have a rank, or both fail, and then for the same reason.
  have failsAlike (e : LevelError) :
      levelRank (chosenLevel (arguments.withLevel given) (settings.withLevel level)) = .error e ↔
        levelRank (chosenLevel arguments settings) = .error e := by
    rw [← levelError?_runWith_eq_some_iff, same, levelError?_runWith_eq_some_iff]
  cases ranked : levelRank (chosenLevel arguments settings) with
  | error e =>
    simp only [runWith, ranked, (failsAlike e).mpr ranked]
    exact ⟨rfl, rfl, rfl⟩
  | ok least =>
    cases otherRanked : levelRank (chosenLevel (arguments.withLevel given) (settings.withLevel level)) with
    | error e =>
      rw [(failsAlike e).mp otherRanked] at ranked
      contradiction
    | ok next =>
      simp only [runWith, ranked, otherRanked, Arguments.withLevel_instant]
      cases readOccasion setting.now arguments.instant with
      | absent => exact ⟨rfl, rfl, rfl⟩
      | unreadable text => exact usageOutcome_alike _ _ _ _ _
      | read occasion =>
        simp only [← planOf.eq_def, plans]
        cases (judge setting.provider (planOf arguments settings occasion)).ending with
        | error e => exact usageOutcome_alike _ _ _ _ _
        | ok ending => exact ⟨rfl, rfl, rfl⟩

theorem runWith_of_rank {given : Option Given}
    (ranks : levelRank (chosenLevel (arguments.withLevel given) settings) =
      levelRank (chosenLevel arguments settings)) :
    runWith setting (arguments.withLevel given) settings environment early =
      runWith setting arguments settings environment early := by
  rw [runWith, runWith, ranks]
  rfl

end Loaded

/-! ## Once the words are read -/

def Setting.within (setting : Setting) (surroundings : Surroundings) : Setting :=
  { setting with surroundings := surroundings }

@[simp] theorem Setting.within_surroundings (setting : Setting) (surroundings : Surroundings) :
    (setting.within surroundings).surroundings = surroundings := rfl

theorem Setting.within_self (setting : Setting) : setting.within setting.surroundings = setting := rfl

section Read

variable {setting : Setting} {arguments : Arguments}

theorem levelError?_runArguments_eq_some_iff {e : LevelError} :
    (runArguments setting arguments).levelError? = some e ↔
      ∃ settings, Loads setting arguments (.ok settings) ∧ Misleads (chosenLevel arguments settings) e := by
  cases settingsGiven : givenPath? arguments.settings with
  | error => simp [runArguments, Loads, settingsGiven, Outcome.levelError?, Ending.levelError?]
  | ok settingsPath =>
    cases environmentGiven : givenPath? arguments.environment with
    | error =>
      simp [runArguments, Loads, settingsGiven, environmentGiven, Outcome.levelError?, Ending.levelError?]
    | ok environmentPath =>
      have loads (result : Except LoadError Settings) : Loads setting arguments result ↔
          (Settings.load setting.surroundings settingsPath environmentPath).result = result := by
        simp [Loads, settingsGiven, environmentGiven]
      simp only [loads, runArguments, settingsGiven, environmentGiven]
      cases (Settings.load setting.surroundings settingsPath environmentPath).result with
      | error cause =>
        refine iff_of_false ?_ (by simp)
        dsimp only
        split <;> simp [Outcome.levelError?, Ending.levelError?]
      | ok settings => simp [levelError?_runWith_eq_some_iff, levelRank_eq_error_iff]

theorem runArguments_alike (surroundings : Surroundings) (given : Option Given)
    (environment : surroundings.environment = setting.surroundings.environment)
    (loads : ∀ settingsPath environmentPath, givenPath? arguments.settings = .ok settingsPath →
      givenPath? arguments.environment = .ok environmentPath →
      Settings.LoadsApart (Settings.load setting.surroundings settingsPath environmentPath)
        (Settings.load surroundings settingsPath environmentPath))
    (same : (runArguments (setting.within surroundings) (arguments.withLevel given)).levelError? =
      (runArguments setting arguments).levelError?) :
    (runArguments setting arguments).Alike
      (runArguments (setting.within surroundings) (arguments.withLevel given)) := by
  simp only [runArguments, Arguments.withLevel_settings, Arguments.withLevel_environment,
    Setting.within_surroundings] at same ⊢
  cases settingsGiven : givenPath? arguments.settings with
  | error => exact ⟨rfl, rfl, environment⟩
  | ok settingsPath =>
    cases environmentGiven : givenPath? arguments.environment with
    | error => exact ⟨rfl, rfl, environment⟩
    | ok environmentPath =>
      obtain ⟨results, left⟩ := loads settingsPath environmentPath settingsGiven environmentGiven
      simp only [settingsGiven, environmentGiven, left] at same ⊢
      -- All that matters of the two loads is what came of them.
      generalize (Settings.load setting.surroundings settingsPath environmentPath).result = result at *
      generalize (Settings.load surroundings settingsPath environmentPath).result = other at *
      cases results with
      | failed e =>
        dsimp only
        split
        · exact usageOutcome_alike _ _ _ _ _
        · exact ⟨rfl, rfl, rfl⟩
      | loaded settings level => exact runWith_alike same

end Read

/-! ## Runs -/

theorem run_alike_of_words (setting : Setting) (before after : List String) (level other : String)
    (same : (run setting (before ++ levelWord other :: after)).levelError? =
      (run setting (before ++ levelWord level :: after)).levelError?) :
    (run setting (before ++ levelWord level :: after)).Alike
      (run setting (before ++ levelWord other :: after)) := by
  have apart := readArguments_apart level other before after
  unfold run at same ⊢
  generalize readArguments (before ++ levelWord level :: after) = reading at *
  generalize readArguments (before ++ levelWord other :: after) = otherReading at *
  cases apart with
  | help => exact ⟨rfl, rfl, rfl⟩
  | failed e other => exact usageOutcome_alike _ _ _ _ _
  | read arguments given _ =>
    have loads (settingsPath environmentPath : Option String) :
        Settings.LoadsApart (Settings.load setting.surroundings settingsPath environmentPath)
          (Settings.load setting.surroundings settingsPath environmentPath) := ⟨.refl _, rfl⟩
    have alike := runArguments_alike setting.surroundings given rfl
      (fun settingsPath environmentPath _ _ => loads settingsPath environmentPath) same
    rw [Setting.within_self] at alike
    exact alike

theorem run_alike_of_files (setting : Setting) (surroundings : Surroundings) (words : List String)
    (environment : surroundings.environment = setting.surroundings.environment)
    (account : surroundings.accountHome = setting.surroundings.accountHome)
    (apart : ∀ sources,
      sources? setting.surroundings.environment setting.surroundings.accountHome words = some sources →
      setting.surroundings.LevelApart surroundings sources)
    (same : (run (setting.within surroundings) words).levelError? = (run setting words).levelError?) :
    (run setting words).Alike (run (setting.within surroundings) words) := by
  unfold run at same ⊢
  cases read : readArguments words with
  | help => exact ⟨rfl, rfl, environment⟩
  | failed e =>
    rw [Setting.within_surroundings, environment]
    exact usageOutcome_alike _ _ _ _ _
  | read arguments unknown =>
    rw [read] at same
    refine runArguments_alike surroundings arguments.level environment ?_ same
    intro settingsPath environmentPath settingsGiven environmentGiven
    refine Settings.load_apart environment account fun sources found => apart sources ?_
    simp only [sources?, read, settingsGiven, environmentGiven, found]

theorem levelError?_run_eq_some_iff {setting : Setting} {words : List String} {e : LevelError} :
    (run setting words).levelError? = some e ↔
      ∃ arguments settings, readArguments words = .read arguments [] ∧
        Loads setting arguments (.ok settings) ∧ Misleads (chosenLevel arguments settings) e := by
  unfold run
  cases read : readArguments words with
  | help => simp [Outcome.levelError?, Ending.levelError?]
  | failed e => simp
  | read arguments unknown =>
    obtain rfl := eq_nil_of_read read
    simp [levelError?_runArguments_eq_some_iff]

/-- A text that stands for nothing is the level of warnings. -/
theorem run_of_nothing {setting : Setting} {words : List String} {arguments : Arguments}
    {settings : Settings} (read : readArguments words = .read arguments [])
    (loads : Loads setting arguments (.ok settings))
    (nothing : StandsForNothing (chosenLevel arguments settings)) :
    run setting words = run setting (words ++ [levelWord "WARNING"]) := by
  obtain ⟨settingsPath, environmentPath, settingsGiven, environmentGiven, loaded⟩ := loads
  have chosen : chosenLevel (arguments.withLevel (some (.ofChars "WARNING".toList))) settings = "WARNING" :=
    rfl
  simp only [run, read, readArguments_concat read, runArguments, Arguments.withLevel_settings,
    Arguments.withLevel_environment, settingsGiven, environmentGiven, loaded]
  refine (runWith_of_rank ?_).symm
  rw [chosen, levelRank_of_nothing nothing]

/-- Runs that differ in the level that a word gives, or that the settings file gives, end alike, print the
same and leave the same variables, exactly if they are broken off at their level for the same reason or not at
all. A run is broken off there exactly if the upper-case form of its level stands for something that is no
level; if it stands for nothing, the run is the one with the level of warnings. -/
theorem level_has_no_part (setting : Setting) :
    (∀ before after level other,
      let outcome (text : String) := run setting (before ++ levelWord text :: after)
      (outcome level).Alike (outcome other) ↔ (outcome other).levelError? = (outcome level).levelError?) ∧
    (∀ surroundings words, surroundings.environment = setting.surroundings.environment →
      surroundings.accountHome = setting.surroundings.accountHome →
      (∀ sources,
        sources? setting.surroundings.environment setting.surroundings.accountHome words = some sources →
        setting.surroundings.LevelApart surroundings sources) →
      let outcome := run setting words
      let other := run (setting.within surroundings) words
      outcome.Alike other ↔ other.levelError? = outcome.levelError?) ∧
    (∀ words e, (run setting words).levelError? = some e ↔
      ∃ arguments settings, readArguments words = .read arguments [] ∧
        Loads setting arguments (.ok settings) ∧ Misleads (chosenLevel arguments settings) e) ∧
    ∀ words arguments settings, readArguments words = .read arguments [] →
      Loads setting arguments (.ok settings) → StandsForNothing (chosenLevel arguments settings) →
      run setting words = run setting (words ++ [levelWord "WARNING"]) := by
  refine ⟨?_, ?_, fun words e => levelError?_run_eq_some_iff, ?_⟩
  · intro before after level other outcome
    exact ⟨Outcome.Alike.levelError?_eq, run_alike_of_words setting before after level other⟩
  · intro surroundings words environment account apart outcome other
    exact ⟨Outcome.Alike.levelError?_eq,
      run_alike_of_files setting surroundings words environment account apart⟩
  · intro words arguments settings read loads nothing
    exact run_of_nothing read loads nothing

/-- A settings file that names the level `debug` instead of `loud`, which is none, changes the report only. -/
theorem level_has_no_part_in_file :
    let setting (body : String) : Setting := ⟨Atlas.provider,
      ⟨⟨[("CRONRANGE_HOME", "home")]⟩, .ofText "/root", Settings.oneFile "config.yaml" body⟩,
      ⟨⟨2024, 1, 1, by decide⟩, Clock.midnight, none⟩, "", fun _ => ""⟩
    let loud := setting "logging:\n  level: loud\n"
    let debug := setting "logging:\n  level: debug\n"
    let words := ["-e", "* 9-17 * * *", "--at", "2024-01-01T12:00:00Z", "-c", "config.yaml"]
    (run loud words).Alike (run debug words) ∧ (run loud words).stderr ≠ (run debug words).stderr := by
  intro setting loud debug words
  have sources : sources? loud.surroundings.environment loud.surroundings.accountHome words =
      some ⟨.ofText "home/.env", .ofText "config.yaml"⟩ := by decide +kernel
  have here := Settings.readDocument_of_soleLevel (by decide +kernel :
    ((Settings.readDocument loud.surroundings.look (.ofText "config.yaml")).toOption.bind id).bind
      Settings.soleLevel? = some "loud")
  have there := Settings.readDocument_of_soleLevel (by decide +kernel :
    ((Settings.readDocument debug.surroundings.look (.ofText "config.yaml")).toOption.bind id).bind
      Settings.soleLevel? = some "debug")
  have apart : loud.surroundings.LevelApart debug.surroundings
      ⟨.ofText "home/.env", .ofText "config.yaml"⟩ :=
    ⟨by decide +kernel, _, _, here, there, .changed (.parts (.changed (.texts "loud" "debug") .nil)) .nil⟩
  obtain ⟨-, files, -⟩ := level_has_no_part loud
  refine ⟨(files debug.surroundings words rfl rfl ?_).mpr (by decide +kernel), by decide +kernel⟩
  intro found same
  cases sources.symm.trans same
  exact apart

/-- The text `basic_format` breaks off a run that any other text, such as `loud`, lets be decided. -/
theorem level_breaks_decided_run :
    let setting : Setting := ⟨Atlas.provider, ⟨⟨[("CRONRANGE_HOME", "home")]⟩, .ofText "/root",
      fun _ => .absent⟩, ⟨⟨2024, 1, 1, by decide⟩, Clock.midnight, none⟩, "", fun _ => ""⟩
    let outcome (level : String) :=
      run setting ["-e", "* * * * *", "--at", "2024-01-01T00:00:00Z", levelWord level]
    (outcome "loud").ending = .status 0 ∧ (outcome "basic_format").ending = .broken (.level .notLevel) ∧
      ¬ (outcome "loud").Alike (outcome "basic_format") := by
  intro setting outcome
  have decided : (outcome "loud").ending = .status 0 :=
    Ending.code?_eq_some_iff.mp (by decide +kernel)
  have broken : (outcome "basic_format").ending = .broken (.level .notLevel) :=
    Ending.levelError?_eq_some_iff.mp (by decide +kernel)
  refine ⟨decided, broken, fun alike => ?_⟩
  have same := alike.ending
  rw [decided, broken] at same
  exact nomatch same

end TimeGate.Command
