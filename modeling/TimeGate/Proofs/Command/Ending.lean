import TimeGate.Command.Run
import TimeGate.Proofs.Gate.Building
import TimeGate.Proofs.Traversal
import TimeGate.Zone.Atlas

/-! How a run of the command ends. A run that is not broken off ends by the first of its stages that
fails, with a usage error, or by the decision of the gate that its words and settings describe. -/

set_option autoImplicit false

namespace TimeGate.Command

/-! ## What a run works with -/

/-- What comes of loading the settings, from the files that the words name or else the usual ones. -/
def Loads (setting : Setting) (arguments : Arguments) (result : Except LoadError Settings) : Prop :=
  ∃ settingsPath environmentPath, givenPath? arguments.settings = .ok settingsPath ∧
    givenPath? arguments.environment = .ok environmentPath ∧
    (Settings.load setting.surroundings settingsPath environmentPath).result = result

/-- The settings are loaded and the instant of the words can be read. -/
structure Reaches (setting : Setting) (arguments : Arguments) (settings : Settings) (occasion : Occasion) :
    Prop where
  loads : Loads setting arguments (.ok settings)
  reads : ∃ text, arguments.instant = some (.text text) ∧ Occasion.read? text = some occasion

/-- The zone that is asked for: the one of the words if they give one that is not empty, or else the one
of the settings. -/
inductive AsksZone (arguments : Arguments) (settings : Settings) : String → Prop where
  | given {zone : String} : arguments.timezone = some (.text zone) → zone ≠ "" →
      AsksZone arguments settings zone
  | settings : (∀ zone, arguments.timezone = some (.text zone) → zone = "") →
      AsksZone arguments settings settings.timezone

/-- Strictness can be switched on by the words, and not off. -/
def asksStrict (arguments : Arguments) (settings : Settings) : Bool :=
  if arguments.strict then true else settings.strict

/-- The upper-case form of the text stands for a level, or for nothing at all. -/
def IsLevelText (level : String) : Prop :=
  String.ofList (Text.upper level.toList) ≠ "BASIC_FORMAT" ∧
    String.ofList (Text.upper level.toList) ≠ "_STYLES"

theorem Given.nonempty?_text (text : String) :
    Given.nonempty? (some (.text text)) = if text = "" then none else some text := by
  simp [Given.nonempty?]

theorem asksZone_iff {arguments : Arguments} {settings : Settings} {zone : String} :
    AsksZone arguments settings zone ↔ chosenZone arguments settings = zone := by
  unfold chosenZone
  constructor
  · rintro (⟨given, inhabited⟩ | unnamed)
    · rw [given, Given.nonempty?_text, if_neg inhabited]
      rfl
    · match given : arguments.timezone with
      | none | some .nothing => rfl
      | some (.text zone) =>
        rw [Given.nonempty?_text, if_pos (unnamed zone given)]
        rfl
  · rintro rfl
    match given : arguments.timezone with
    | none | some .nothing => exact .settings fun zone same => by simp [given] at same
    | some (.text zone) =>
      rw [Given.nonempty?_text]
      by_cases empty : zone = ""
      · rw [if_pos empty]
        refine .settings fun other same => ?_
        rw [given] at same
        cases same
        exact empty
      · rw [if_neg empty]
        exact .given given empty

theorem asksStrict_eq (arguments : Arguments) (settings : Settings) :
    asksStrict arguments settings = (arguments.strict || settings.strict) := by
  unfold asksStrict
  cases arguments.strict <;> rfl

theorem exists_levelRank {level : String} (isLevel : IsLevelText level) :
    ∃ least, levelRank level = .ok least := by
  unfold levelRank
  split
  · exact ⟨_, rfl⟩
  · exact ⟨_, rfl⟩
  · exact ⟨_, rfl⟩
  · exact ⟨_, rfl⟩
  · exact ⟨_, rfl⟩
  · exact ⟨_, rfl⟩
  · next same => exact absurd same isLevel.1
  · next same => exact absurd same isLevel.2
  · exact ⟨_, rfl⟩

/-! ## The stages -/

/-- The exit status of a run whose words are read, and the message if it is a usage error. -/
inductive Concludes (setting : Setting) (arguments : Arguments) : Nat → Option String → Prop where
  | settings {e : LoadError} : Loads setting arguments (.error e) → isUsageFault e = true →
      Concludes setting arguments 2 (some ("invalid configuration: " ++ setting.reason e))
  | instant {settings : Settings} {text : String} : Loads setting arguments (.ok settings) →
      arguments.instant = some (.text text) → Occasion.read? text = none →
      Concludes setting arguments 2
        (some ("argument --at: invalid ISO 8601 instant " ++ Text.quoted text))
  | schedule {settings : Settings} {occasion : Occasion} {cause : Refusal} :
      Reaches setting arguments settings occasion →
      Schedule.readValue (asksStrict arguments settings) (Given.value arguments.expression) =
        .error (.refused cause) →
      Concludes setting arguments 2 (some cause.message)
  | zone {settings : Settings} {occasion : Occasion} {schedule : Schedule} {zone : String} :
      Reaches setting arguments settings occasion →
      Schedule.readValue (asksStrict arguments settings) (Given.value arguments.expression) =
        .ok schedule →
      AsksZone arguments settings zone → setting.provider.knows zone = .ok false →
      Concludes setting arguments 2 (some (Refusal.unknownZone (.text zone)).message)
  | decided {settings : Settings} {occasion : Occasion} {zone : String} {gate : Gate} {allowed : Bool} :
      Reaches setting arguments settings occasion → AsksZone arguments settings zone →
      Gate.build setting.provider (Given.value arguments.expression) (.text zone)
        (asksStrict arguments settings) = .ok gate →
      gate.allows setting.provider (.moment occasion.current) = .ok allowed →
      Concludes setting arguments (if allowed then 0 else 1) none

section Judge

variable {provider : Provider} (plan : Plan)

theorem judge_of_refused {cause : Refusal}
    (refused : Gate.build provider plan.expression (.text plan.zone) plan.strict =
      .error (.refused cause)) :
    (judge provider plan).ending = .error (.gate cause) := by
  simp only [judge, refused]

theorem judge_of_numeralTooLong
    (long : Gate.build provider plan.expression (.text plan.zone) plan.strict = .error .numeralTooLong) :
    (judge provider plan).ending = .ok (.broken .numeralTooLong) := by
  simp only [judge, long]

theorem judge_of_lookup_fault {fault : Registry.Fault}
    (failed : Gate.build provider plan.expression (.text plan.zone) plan.strict = .error (.lookup fault)) :
    (judge provider plan).ending = .ok (.broken (.lookup fault)) := by
  simp only [judge, failed]

theorem judge_of_gate {gate : Gate}
    (built : Gate.build provider plan.expression (.text plan.zone) plan.strict = .ok gate) :
    (judge provider plan).ending =
      match gate.allows provider (.moment plan.occasion.current) with
      | .ok allowed => .ok (.status (if allowed then 0 else 1))
      | .error _ => .ok (.broken .outOfCalendar) := by
  simp only [judge, built, Gate.allows]
  cases gate.components provider (.moment plan.occasion.current) <;> rfl

end Judge

/-- The plan that words and settings make for an instant. -/
def planOf (arguments : Arguments) (settings : Settings) (occasion : Occasion) : Plan where
  expression := Given.value arguments.expression
  zone := chosenZone arguments settings
  strict := arguments.strict || settings.strict
  occasion := occasion
  verbose := arguments.verbose

/-- The status of an outcome, and the report of the usage error if there is one. -/
structure Outcome.EndsAs (outcome : Outcome) (code : Nat) (message : Option String) : Prop where
  status : outcome.ending = .status code
  report : ∀ text, message = some text → ∃ before, outcome.stderr = before ++ usageReport text

theorem usageOutcome_endsAs {environment : Environment} {before : String} (error : UsageError) :
    (usageOutcome environment before error).EndsAs 2 (some error.message) where
  status := rfl
  report := by
    rintro _ ⟨⟩
    exact ⟨before, rfl⟩

section Run

variable {setting : Setting} {arguments : Arguments} {settings : Settings} {occasion : Occasion}

theorem exists_loads_or_broken (setting : Setting) (arguments : Arguments) :
    (∃ result, Loads setting arguments result) ∨
      (runArguments setting arguments).ending = .broken .settingsPath := by
  cases settingsGiven : givenPath? arguments.settings with
  | error => exact .inr (by simp only [runArguments, settingsGiven])
  | ok settingsPath =>
    cases environmentGiven : givenPath? arguments.environment with
    | error => exact .inr (by simp only [runArguments, settingsGiven, environmentGiven])
    | ok environmentPath => exact .inl ⟨_, settingsPath, environmentPath, settingsGiven, environmentGiven, rfl⟩

theorem runArguments_of_error {e : LoadError} (loads : Loads setting arguments (.error e)) :
    ∃ environment early, runArguments setting arguments =
      if isUsageFault e then usageOutcome environment early (.settings (setting.reason e))
      else ⟨"", early, .broken (.settings e), environment⟩ := by
  obtain ⟨settingsPath, environmentPath, settingsGiven, environmentGiven, failed⟩ := loads
  simp only [runArguments, settingsGiven, environmentGiven, failed]
  exact ⟨_, _, rfl⟩

theorem runArguments_of_settings (loads : Loads setting arguments (.ok settings)) :
    ∃ environment early, runArguments setting arguments =
      runWith setting arguments settings environment early := by
  obtain ⟨settingsPath, environmentPath, settingsGiven, environmentGiven, loaded⟩ := loads
  simp only [runArguments, settingsGiven, environmentGiven, loaded]
  exact ⟨_, _, rfl⟩

/-- What follows the settings, where the words give an instant. -/
theorem runWith_of_instant (setting : Setting) (environment : Environment) (early : String) {given : Given}
    (level : IsLevelText (chosenLevel arguments settings)) (instant : arguments.instant = some given) :
    match readOccasion setting.now (some given) with
    | .absent => (runWith setting arguments settings environment early).ending = .broken .instant
    | .unreadable text => runWith setting arguments settings environment early =
        usageOutcome environment early (.instant text)
    | .read occasion => ∃ said, runWith setting arguments settings environment early =
        match (judge setting.provider (planOf arguments settings occasion)).ending with
        | .error e => usageOutcome environment said e
        | .ok ending => ⟨(judge setting.provider (planOf arguments settings occasion)).stdout, said, ending,
            environment⟩ := by
  obtain ⟨least, rank⟩ := exists_levelRank level
  simp only [runWith, rank, instant]
  cases readOccasion setting.now (some given) with
  | absent => rfl
  | unreadable text => rfl
  | read occasion => exact ⟨_, rfl⟩

theorem runArguments_of_reaches (level : IsLevelText (chosenLevel arguments settings))
    (reaches : Reaches setting arguments settings occasion) :
    ∃ environment said, runArguments setting arguments =
      match (judge setting.provider (planOf arguments settings occasion)).ending with
      | .error e => usageOutcome environment said e
      | .ok ending => ⟨(judge setting.provider (planOf arguments settings occasion)).stdout, said, ending,
          environment⟩ := by
  obtain ⟨environment, early, run⟩ := runArguments_of_settings reaches.loads
  obtain ⟨text, instant, read⟩ := reaches.reads
  have after := runWith_of_instant setting environment early level instant
  simp only [readOccasion, read] at after
  obtain ⟨said, same⟩ := after
  exact ⟨environment, said, run.trans same⟩

theorem endsAs_of_refused (level : IsLevelText (chosenLevel arguments settings))
    (reaches : Reaches setting arguments settings occasion) {cause : Refusal}
    (refused : Gate.build setting.provider (Given.value arguments.expression)
      (.text (chosenZone arguments settings)) (arguments.strict || settings.strict) =
        .error (.refused cause)) :
    (runArguments setting arguments).EndsAs 2 (some cause.message) := by
  obtain ⟨environment, said, run⟩ := runArguments_of_reaches level reaches
  rw [judge_of_refused (planOf arguments settings occasion) refused] at run
  rw [run]
  exact usageOutcome_endsAs (.gate cause)

end Run

/-! ## Stages and endings -/

section Stages

variable {setting : Setting} {arguments : Arguments} {code : Nat}
  (level : ∀ settings, Loads setting arguments (.ok settings) →
    IsLevelText (chosenLevel arguments settings))
include level

theorem Concludes.endsAs {message : Option String} (concludes : Concludes setting arguments code message) :
    (runArguments setting arguments).EndsAs code message := by
  cases concludes with
  | @settings e loads fault =>
    obtain ⟨environment, early, run⟩ := runArguments_of_error loads
    rw [run, if_pos fault]
    exact usageOutcome_endsAs (.settings (setting.reason e))
  | @instant settings text loads given unreadable =>
    obtain ⟨environment, early, run⟩ := runArguments_of_settings loads
    have after := runWith_of_instant setting environment early (level settings loads) given
    simp only [readOccasion, unreadable] at after
    rw [run, after]
    exact usageOutcome_endsAs (.instant text)
  | @schedule settings occasion cause reaches refused =>
    rw [asksStrict_eq] at refused
    exact endsAs_of_refused (level settings reaches.loads) reaches (Gate.build_of_refused_schedule refused)
  | @zone settings occasion schedule zone reaches accepted asks unknown =>
    rw [asksStrict_eq] at accepted
    rw [← asksZone_iff.mp asks] at unknown ⊢
    exact endsAs_of_refused (level settings reaches.loads) reaches
      (Gate.build_of_unknown_zone accepted unknown)
  | @decided settings occasion zone gate allowed reaches asks built decides =>
    rw [asksStrict_eq, ← asksZone_iff.mp asks] at built
    obtain ⟨environment, said, run⟩ := runArguments_of_reaches (level settings reaches.loads) reaches
    have decision : gate.allows setting.provider
        (.moment (planOf arguments settings occasion).occasion.current) = .ok allowed := decides
    rw [judge_of_gate (planOf arguments settings occasion) built, decision] at run
    rw [run]
    exact ⟨rfl, fun text absent => nomatch absent⟩

/-- A gate that is not built is refused for its schedule or for its zone. -/
theorem concludes_of_judge {settings : Settings} {occasion : Occasion}
    (reaches : Reaches setting arguments settings occasion)
    (ended : (runArguments setting arguments).ending = .status code) :
    ∃ message, Concludes setting arguments code message := by
  have asks : AsksZone arguments settings (chosenZone arguments settings) := asksZone_iff.mpr rfl
  -- The stages name the strictness that is asked for, and the run works with that of its plan.
  have strict := asksStrict_eq arguments settings
  obtain ⟨environment, said, run⟩ := runArguments_of_reaches (level settings reaches.loads) reaches
  rw [run] at ended
  cases read : Schedule.readValue (asksStrict arguments settings) (Given.value arguments.expression) with
  | error e =>
    have refused : Gate.build setting.provider (Given.value arguments.expression)
        (.text (chosenZone arguments settings)) (asksStrict arguments settings) = .error (.ofRead e) :=
      Gate.build_of_refused_schedule read
    rw [strict] at refused
    cases e with
    | refused cause =>
      rw [judge_of_refused (planOf arguments settings occasion) refused] at ended
      cases ended
      exact ⟨_, .schedule reaches read⟩
    | numeralTooLong =>
      rw [judge_of_numeralTooLong (planOf arguments settings occasion) refused] at ended
      contradiction
  | ok schedule =>
    match known : setting.provider.knows (chosenZone arguments settings) with
    | .error fault =>
      have failed := Gate.build_of_lookup_fault read known
      rw [strict] at failed
      rw [judge_of_lookup_fault (planOf arguments settings occasion) failed] at ended
      contradiction
    | .ok false =>
      have refused := Gate.build_of_unknown_zone read known
      rw [strict] at refused
      rw [judge_of_refused (planOf arguments settings occasion) refused] at ended
      cases ended
      exact ⟨_, .zone reaches read asks known⟩
    | .ok true =>
      have built := Gate.build_of_known_zone read known
      have planned := built
      rw [strict] at planned
      rw [judge_of_gate (planOf arguments settings occasion) planned, ← strict] at ended
      cases decides : Gate.allows setting.provider
          ⟨schedule, chosenZone arguments settings, asksStrict arguments settings⟩
          (.moment occasion.current) with
      | error e =>
        simp only [planOf, decides] at ended
        contradiction
      | ok allowed =>
        simp only [planOf, decides] at ended
        cases ended
        exact ⟨_, .decided reaches asks built decides⟩

/-- A run that ends with a status has been ended by one of the stages. -/
theorem exists_concludes (given : arguments.instant ≠ none)
    (ended : (runArguments setting arguments).ending = .status code) :
    ∃ message, Concludes setting arguments code message := by
  rcases exists_loads_or_broken setting arguments with ⟨result, loads⟩ | broken
  · cases result with
    | error e =>
      obtain ⟨environment, early, run⟩ := runArguments_of_error loads
      rw [run] at ended
      split at ended
      · next fault =>
        cases ended
        exact ⟨_, .settings loads fault⟩
      · contradiction
    | ok settings =>
      obtain ⟨environment, early, run⟩ := runArguments_of_settings loads
      obtain ⟨instant, present⟩ := Option.ne_none_iff_exists'.mp given
      have after := runWith_of_instant setting environment early (level settings loads) present
      match instant, present with
      | .nothing, _ =>
        rw [run, after] at ended
        contradiction
      | .text text, present =>
        cases read : Occasion.read? text with
        | none =>
          simp only [readOccasion, read] at after
          rw [run, after] at ended
          cases ended
          exact ⟨_, .instant loads present read⟩
        | some occasion => exact concludes_of_judge level ⟨loads, text, present, read⟩ ended
  · rw [broken] at ended
    contradiction

end Stages

/-- A run whose words are read and give an instant ends with a status exactly if one of its stages
concludes it, with the status of that stage: 2 and a report for the first fault of the settings, the
instant, the schedule and the zone, in this order, and otherwise 0 or 1 by the decision of the gate. -/
theorem ending_iff_concludes (setting : Setting) (words : List String) (arguments : Arguments)
    (read : readArguments words = .read arguments []) (given : arguments.instant ≠ none)
    (level : ∀ settings, Loads setting arguments (.ok settings) →
      IsLevelText (chosenLevel arguments settings)) :
    (∀ code, (run setting words).ending = .status code ↔
      ∃ message, Concludes setting arguments code message) ∧
    ∀ code message, Concludes setting arguments code (some message) →
      ∃ before, (run setting words).stderr = before ++ usageReport message := by
  have same : run setting words = runArguments setting arguments := by rw [run, read]
  rw [same]
  refine ⟨fun code => ⟨exists_concludes level given, ?_⟩, fun code message concludes => ?_⟩
  · rintro ⟨message, concludes⟩
    exact (concludes.endsAs level).status
  · exact (concludes.endsAs level).report message rfl

/-- The schedule is refused under the strictness of a variable, before the unknown zone is looked at. A
level that nobody knows does no harm. -/
theorem ending_strict_by_variable :
    let setting : Setting := ⟨Atlas.provider,
      ⟨⟨[("CRONRANGE_HOME", "home"), ("CRONRANGE_STRICT", "YES")]⟩, .ofText "/root", fun _ => .absent⟩,
      ⟨⟨2024, 1, 1, by decide⟩, Clock.midnight, none⟩, "", fun _ => ""⟩
    let words := ["-e", "60 * * * *", "-t", "Mars/Olympus", "--at=2024-03-15T18:05z", "--log-l", "loud"]
    ∃ arguments, readArguments words = .read arguments [] ∧ arguments.instant ≠ none ∧
      (∀ settings, Loads setting arguments (.ok settings) →
        IsLevelText (chosenLevel arguments settings)) ∧
      (run setting words).ending = .status 2 ∧
      ∃ before, (run setting words).stderr = before ++ usageReport
        "Field minute ('60') has value 60 outside minute bounds 0-59." := by
  intro setting words
  let arguments : Arguments := ⟨some (.text "60 * * * *"), some (.text "Mars/Olympus"),
    some (.text "2024-03-15T18:05z"), false, none, none, false, some (.text "loud")⟩
  have read : readArguments words = .read arguments [] := by decide +kernel
  have given : arguments.instant ≠ none := by decide
  have level (settings : Settings) (_ : Loads setting arguments (.ok settings)) :
      IsLevelText (chosenLevel arguments settings) := by
    have chosen : chosenLevel arguments settings = "loud" := rfl
    rw [chosen]
    exact ⟨by decide +kernel, by decide +kernel⟩
  have loaded : (Settings.load setting.surroundings none none).result.toOption =
      some ⟨"UTC", true, "WARNING"⟩ := by decide +kernel
  have loads : Loads setting arguments (.ok ⟨"UTC", true, "WARNING"⟩) :=
    ⟨none, none, rfl, rfl, Traversal.eq_ok_of_toOption loaded⟩
  have reaches : Reaches setting arguments ⟨"UTC", true, "WARNING"⟩
      ⟨⟨⟨2024, 3, 15, by decide⟩, ⟨18, 5, 0, 0, by decide⟩, some Offset.utc⟩, .fixed⟩ :=
    ⟨loads, "2024-03-15T18:05z", rfl, by decide +kernel⟩
  have refused : Schedule.readValue true (.text "60 * * * *") =
      .error (.refused (.outsideDomain "minute" "60" 0 59 60)) := rfl
  have concludes : Concludes setting arguments 2
      (some "Field minute ('60') has value 60 outside minute bounds 0-59.") := .schedule reaches refused
  obtain ⟨ends, reports⟩ := ending_iff_concludes setting words arguments read given level
  exact ⟨arguments, read, given, level, (ends 2).mpr ⟨_, concludes⟩, reports 2 _ concludes⟩

end TimeGate.Command
