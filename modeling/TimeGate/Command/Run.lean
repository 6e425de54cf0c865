import TimeGate.Command.Arguments
import TimeGate.Command.Level
import TimeGate.Command.Usage
import TimeGate.Gate
import TimeGate.Instant.Iso
import TimeGate.Settings.Load

/-! One run of the command. The words are read, then the settings are loaded, the instant is read
and the gate is built; the first stage that fails ends the run. The decision is the exit status. -/

set_option autoImplicit false

namespace TimeGate.Command

inductive UsageError where
  | arguments (error : ArgumentError)
  /-- The settings cannot be loaded, for a reason told in words. -/
  | settings (reason : String)
  | instant (text : String)
  | gate (refusal : Refusal)

def UsageError.message : UsageError → String
  | .arguments error => error.message
  | .settings reason => "invalid configuration: " ++ reason
  | .instant text => "argument --at: invalid ISO 8601 instant " ++ Text.quoted text
  | .gate refusal => refusal.message

/-- Faults that are not expected of a user and end a run without a status. -/
inductive Breakdown where
  | settings (error : LoadError)
  | settingsPath
  | level (error : LevelError)
  | instant
  | numeralTooLong
  | lookup (fault : Registry.Fault)
  | outOfCalendar

inductive Ending where
  | status (code : Nat)
  | broken (cause : Breakdown)

structure Outcome where
  stdout : String
  stderr : String
  ending : Ending
  environment : Environment

def isUsageFault : LoadError → Bool
  | .homeUnknown | .folder | .unreachable | .endless | .keyNotText => false
  | .document fault => fault == .malformed || fault == .noValue
  | _ => true

def allowedStatus : Nat := 0

def deniedStatus : Nat := 1

def usageStatus : Nat := 2

def verdictWord (allowed : Bool) : String := if allowed then "allowed" else "denied"

def padRight (width : Nat) (text : String) : String :=
  text ++ String.ofList (List.replicate (width - text.length) ' ')

def padLeft (width : Nat) (text : String) : String :=
  String.ofList (List.replicate (width - text.length) ' ') ++ text

/-- One field of the report: label, value, specification and verdict. -/
def rowLine (schedule : Schedule) (row : Row) : String :=
  let spec := schedule.get row.field
  "  " ++ padRight 17 row.field.domain.label ++ " " ++
    padLeft 2 (.ofList (Decimal.signedDigits row.value)) ++ "  " ++ padRight 12 spec.text ++ " " ++
    (if row.admitted then "ok" else "no") ++ (if spec.wraps then "  (wraps)" else "") ++ "\n"

def report (schedule : Schedule) (rows : List Row) (allowed : Bool) : String :=
  String.join (rows.map (rowLine schedule)) ++ "  " ++ verdictWord allowed ++ "\n"

/-- What a run is given besides its words. -/
structure Setting where
  provider : Provider
  surroundings : Surroundings
  now : DateTime
  stamp : String
  /-- How a fault of the settings is worded, except for the one that has words of its own. -/
  wording : LoadError → String

def Setting.reason (setting : Setting) (error : LoadError) : String :=
  error.message?.getD (setting.wording error)

structure Plan where
  expression : Value
  zone : String
  strict : Bool
  occasion : Occasion
  verbose : Bool

def Given.value : Option Given → Value
  | some (.text s) => .text s
  | _ => .list []

/-- The zone option goes before the settings, unless it is empty. -/
def chosenZone (arguments : Arguments) (settings : Settings) : String :=
  (Given.nonempty? arguments.timezone).getD settings.timezone

def chosenLevel (arguments : Arguments) (settings : Settings) : String :=
  (Given.nonempty? arguments.level).getD settings.level

inductive OccasionRead where
  | read (occasion : Occasion)
  | unreadable (text : String)
  | absent

def readOccasion (now : DateTime) : Option Given → OccasionRead
  | none => .read (.now now)
  | some .nothing => .absent
  | some (.text text) =>
    match Occasion.read? text with
    | some occasion => .read occasion
    | none => .unreadable text

/-- The part of a run that decides: what it prints, what it notices and how it ends. -/
structure Decision where
  stdout : String
  notices : List Notice
  ending : Except UsageError Ending

def judge (provider : Provider) (plan : Plan) : Decision :=
  let zone : Value := .text plan.zone
  let built := Gate.buildNotices provider plan.expression zone plan.strict
  match Gate.build provider plan.expression zone plan.strict with
  | .error (.refused refusal) => ⟨"", built, .error (.gate refusal)⟩
  | .error .numeralTooLong => ⟨"", built, .ok (.broken .numeralTooLong)⟩
  | .error (.lookup fault) => ⟨"", built, .ok (.broken (.lookup fault))⟩
  | .ok gate =>
    let candidate := Candidate.moment plan.occasion.current
    let looked := gate.evaluationNotices provider candidate
    match gate.components provider candidate with
    | .error _ => ⟨"", built ++ looked, .ok (.broken .outOfCalendar)⟩
    | .ok components =>
      let allowed := gate.schedule.admits components
      let decided := Notice.decided gate.schedule (Iso.text plan.occasion.current)
        plan.occasion.isFixed plan.zone allowed
      ⟨if plan.verbose then report gate.schedule (gate.rows components) allowed else "",
        built ++ looked ++ [decided] ++ (if plan.verbose then looked else []),
        .ok (.status (if allowed then allowedStatus else deniedStatus))⟩

def usageOutcome (environment : Environment) (before : String) (error : UsageError) : Outcome :=
  ⟨"", before ++ usageReport error.message, .status usageStatus, environment⟩

def runWith (setting : Setting) (arguments : Arguments) (settings : Settings)
    (environment : Environment) (early : String) : Outcome :=
  match levelRank (chosenLevel arguments settings) with
  | .error e => ⟨"", early, .broken (.level e), environment⟩
  | .ok least =>
    match readOccasion setting.now arguments.instant with
    | .absent => ⟨"", early, .broken .instant, environment⟩
    | .unreadable text => usageOutcome environment early (.instant text)
    | .read occasion =>
      let decision := judge setting.provider
        { expression := Given.value arguments.expression
          zone := chosenZone arguments settings
          strict := arguments.strict || settings.strict
          occasion := occasion
          verbose := arguments.verbose }
      let said := early ++ noticeLines setting.stamp least decision.notices
      match decision.ending with
      | .error e => usageOutcome environment said e
      | .ok ending => ⟨decision.stdout, said, ending, environment⟩

/-- The path that an option gives, if it gives a text. -/
def givenPath? : Option Given → Except Unit (Option String)
  | none => .ok none
  | some (.text text) => .ok (some text)
  | some .nothing => .error ()

/-- The files that a run with these words looks at, if it comes to that. -/
def sources? (environment : Environment) (accountHome : Path) (words : List String) :
    Option Settings.Sources :=
  match readArguments words with
  | .read arguments _ =>
    match givenPath? arguments.settings, givenPath? arguments.environment with
    | .ok settingsPath, .ok environmentPath =>
      Settings.sources? environment accountHome settingsPath environmentPath
    | _, _ => none
  | _ => none

def runArguments (setting : Setting) (arguments : Arguments) : Outcome :=
  let environment := setting.surroundings.environment
  match givenPath? arguments.settings, givenPath? arguments.environment with
  | .ok settingsPath, .ok environmentPath =>
    let loaded := Settings.load setting.surroundings settingsPath environmentPath
    let early := earlyLines loaded.notices
    match loaded.result with
    | .error e =>
      if isUsageFault e then usageOutcome loaded.environment early (.settings (setting.reason e))
      else ⟨"", early, .broken (.settings e), loaded.environment⟩
    | .ok settings => runWith setting arguments settings loaded.environment early
  | _, _ => ⟨"", "", .broken .settingsPath, environment⟩

def run (setting : Setting) (words : List String) : Outcome :=
  let environment := setting.surroundings.environment
  match readArguments words with
  | .help => ⟨helpText, "", .status 0, environment⟩
  | .failed e => usageOutcome environment "" (.arguments e)
  | .read arguments _ => runArguments setting arguments

end TimeGate.Command
