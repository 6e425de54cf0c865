import TimeGate.Schedule.Reader
import TimeGate.Zone.Provider

/-! Gates. A gate is a schedule bound to a zone that its provider knows; building it is where every
fault of schedule and zone is found. A gate admits a moment if all five fields admit its calendar
numbers in the zone, and explains itself field by field from the same numbers. The provider may have
effects of its own, such as keeping a log of what it is asked. -/

set_option autoImplicit false

namespace TimeGate

structure Gate where
  schedule : Schedule
  zone : String
  strict : Bool
  deriving DecidableEq, Repr

/-- Why a gate is not built. -/
inductive BuildError where
  | refused (cause : Refusal)
  | numeralTooLong
  /-- The provider failed when it was asked for the zone. -/
  | lookup (fault : Registry.Fault)
  deriving Repr

def BuildError.ofRead : ReadError → BuildError
  | .refused cause => .refused cause
  | .numeralTooLong => .numeralTooLong

inductive Candidate where
  | moment (moment : DateTime)
  | other (kind : String)
  deriving DecidableEq, Repr

inductive EvaluationError where
  /-- Only moments can be evaluated; the kind of what was offered is told. -/
  | notMoment (kind : String)
  /-- The moment leaves the calendar in UTC or in the zone. -/
  | outOfCalendar
  deriving DecidableEq, Repr

def EvaluationError.message : EvaluationError → String
  | .notMoment kind => "Expected a datetime, got " ++ kind
  | .outOfCalendar => "date value out of range"

structure Row where
  field : Field
  value : Int
  admitted : Bool
  deriving DecidableEq, Repr

namespace Gate

def defaultZone : String := "UTC"

/-- The schedule is read first, and only then the provider is asked for the zone. -/
def build (provider : Provider) (expression zone : Value) (strict : Bool) :
    Except BuildError Gate :=
  match Schedule.readValue strict expression with
  | .error e => .error (.ofRead e)
  | .ok schedule =>
    match zone with
    | .text name =>
      match provider.knows name with
      | .ok true => .ok ⟨schedule, name, strict⟩
      | .ok false => .error (.refused (.unknownZone zone))
      | .error fault => .error (.lookup fault)
    | _ => .error (.refused (.unknownZone zone))

def buildNotices (provider : Provider) (expression zone : Value) (strict : Bool) : List Notice :=
  match expression, Schedule.readValue strict expression with
  | .text source, .ok schedule =>
    .scheduleRead source schedule ::
      match zone with
      | .text name =>
        provider.lookupNotices name ++
          match provider.knows name with
          | .ok true => [.gateBuilt schedule name strict]
          | _ => []
      | _ => []
  | _, _ => []

def components (provider : Provider) (gate : Gate) : Candidate → Except EvaluationError Components
  | .other kind => .error (.notMoment kind)
  | .moment moment =>
    match provider.project gate.zone moment with
    | some components => .ok components
    | none => .error .outOfCalendar

def allows (provider : Provider) (gate : Gate) (candidate : Candidate) :
    Except EvaluationError Bool :=
  (gate.components provider candidate).map gate.schedule.admits

def rows (gate : Gate) (components : Components) : List Row :=
  Field.all.map fun field =>
    ⟨field, components.get field, (gate.schedule.get field).admits (components.get field)⟩

def explain (provider : Provider) (gate : Gate) (candidate : Candidate) :
    Except EvaluationError (List Row) :=
  (gate.components provider candidate).map gate.rows

def evaluationNotices (provider : Provider) (gate : Gate) : Candidate → List Notice
  | .moment _ => provider.lookupNotices gate.zone
  | .other _ => []

def describe (gate : Gate) : String :=
  "AllowedRange(" ++ Text.quoted gate.schedule.text ++ ", timezone=" ++ Text.quoted gate.zone ++ ")"

/-! ## Providers with effects -/

section Effects

variable {m : Type → Type} [Monad m] {α : Type}

/-- What a provider shows, where asking it has effects. -/
abbrev Showing (m : Type → Type) : Type := String → DateTime → ExceptT EvaluationError m Components

/-- An evaluation asks the provider once, about a moment, and never about anything else. -/
def evaluateM (showing : Showing m) (gate : Gate) (answer : Components → α) :
    Candidate → ExceptT EvaluationError m α
  | .other kind => throw (.notMoment kind)
  | .moment moment => answer <$> showing gate.zone moment

/-- The provider without effects. -/
def showingOf (provider : Provider) : Showing Id := fun zone moment =>
  ExceptT.mk (match provider.project zone moment with
    | some components => .ok components
    | none => .error .outOfCalendar)

/-- The calls made to a provider, in order. -/
abbrev Calls : Type := List (DateTime × String)

/-- The provider with a log of its calls. -/
def loggingOf (provider : Provider) : Showing (StateM Calls) := fun zone moment => do
  modify (· ++ [(moment, zone)])
  match provider.project zone moment with
  | some components => return components
  | none => throw .outOfCalendar

/-- Evaluates a candidate and appends the calls of the evaluation to earlier ones. -/
def evaluateLogged (provider : Provider) (gate : Gate) (answer : Components → α) (candidate : Candidate)
    (calls : Calls) : Except EvaluationError α × Calls :=
  (gate.evaluateM (loggingOf provider) answer candidate).run.run calls

section Logged

variable (provider : Provider) (gate : Gate) (answer : Components → α) (calls : Calls)

theorem evaluateLogged_other (kind : String) :
    gate.evaluateLogged provider answer (.other kind) calls = (.error (.notMoment kind), calls) := rfl

theorem evaluateLogged_moment (moment : DateTime) :
    gate.evaluateLogged provider answer (.moment moment) calls =
      ((gate.components provider (.moment moment)).map answer, calls ++ [(moment, gate.zone)]) := by
  simp only [evaluateLogged, evaluateM, loggingOf, components]
  cases provider.project gate.zone moment <;> rfl

end Logged

end Effects

end Gate

end TimeGate
