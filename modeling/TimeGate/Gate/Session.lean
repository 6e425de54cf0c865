import TimeGate.Gate

/-! Sessions over named gates that share one provider. A step answers from the gate it names and leaves
all others alone; gates cannot be written to, and a build that fails changes nothing. The calls made to
the provider are kept in order. -/

set_option autoImplicit false

namespace TimeGate

/-- What can be seen of a gate. -/
inductive Aspect where
  | zone
  | strict
  | schedule
  | field (field : Field)
  deriving DecidableEq, Repr

namespace Aspect

def ofName? (name : String) : Option Aspect :=
  match name with
  | "timezone" => some .zone
  | "strict" => some .strict
  | "expression" => some .schedule
  | _ => (Field.ofName? name).map .field

end Aspect

/-- What a gate has under a name: something to see, or one of its two evaluations. -/
inductive Member where
  | aspect (aspect : Aspect)
  | decision
  | explanation
  deriving DecidableEq, Repr

namespace Member

def ofName? (name : String) : Option Member :=
  match name with
  | "is_date_allowed" => some .decision
  | "explain" => some .explanation
  | _ => (Aspect.ofName? name).map .aspect

end Member

/-- A name for the use of others. What a gate keeps for itself is named with an underscore in front. -/
structure PublicName where
  text : String
  isPublic : text.toList.head? ≠ some '_'
  deriving DecidableEq

namespace PublicName

def ofText? (text : String) : Option PublicName :=
  if isPublic : text.toList.head? ≠ some '_' then some ⟨text, isPublic⟩ else none

end PublicName

namespace Session

structure State where
  gates : List (String × Gate)
  calls : Gate.Calls

inductive Step where
  | build (name : String) (expression zone : Value) (strict : Bool)
  | allows (name : String) (candidate : Candidate)
  | explain (name : String) (candidate : Candidate)
  | read (name : String) (member : PublicName)
  | assign (name : String) (member : PublicName)
  | calls

inductive Answer where
  | built (gate : Gate)
  | notBuilt (error : BuildError)
  | verdict (allowed : Bool)
  | rows (rows : List Row)
  | failed (error : EvaluationError)
  | member (gate : Gate) (member : Member)
  /-- The member is there and cannot be written to. -/
  | readOnly (member : Member)
  | noMember
  | calls (calls : Gate.Calls)
  | noGate

def empty : State := ⟨[], []⟩

def State.find? (state : State) (name : String) : Option Gate :=
  (state.gates.find? fun entry => entry.1 == name).map Prod.snd

def State.erase (state : State) (name : String) : State :=
  { state with gates := state.gates.filter fun entry => entry.1 != name }

def State.insert (state : State) (name : String) (gate : Gate) : State :=
  { state.erase name with gates := (name, gate) :: (state.erase name).gates }

/-- Evaluates a candidate at a gate. The provider is asked in the evaluation, and only there. -/
def State.evaluate {α : Type} (provider : Provider) (state : State) (gate : Gate) (answer : Components → α)
    (tell : α → Answer) (candidate : Candidate) : State × Answer :=
  match gate.evaluateLogged provider answer candidate state.calls with
  | (.ok result, calls) => ({ state with calls := calls }, tell result)
  | (.error e, calls) => ({ state with calls := calls }, .failed e)

section Evaluating

variable {α : Type} (provider : Provider) (state : State) (gate : Gate) (answer : Components → α)
  (tell : α → Answer)

theorem State.evaluate_other (kind : String) :
    state.evaluate provider gate answer tell (.other kind) = (state, .failed (.notMoment kind)) := by
  rw [evaluate, Gate.evaluateLogged_other]

theorem State.evaluate_moment (moment : DateTime) :
    state.evaluate provider gate answer tell (.moment moment) =
      ({ state with calls := state.calls ++ [(moment, gate.zone)] },
        match (gate.components provider (.moment moment)).map answer with
        | .ok result => tell result
        | .error e => .failed e) := by
  rw [evaluate, Gate.evaluateLogged_moment]
  cases (gate.components provider (.moment moment)).map answer <;> rfl

end Evaluating

/-- What comes of writing to a member of a gate. All that a gate has is read-only, and it cannot be
given anything new. -/
def assignment (member : PublicName) : Answer :=
  match Member.ofName? member.text with
  | some known => .readOnly known
  | none => .noMember

def step (provider : Provider) (state : State) : Step → State × Answer
  | .build name expression zone strict =>
    match Gate.build provider expression zone strict with
    | .ok gate => (state.insert name gate, .built gate)
    | .error e => (state, .notBuilt e)
  | .allows name candidate =>
    match state.find? name with
    | none => (state, .noGate)
    | some gate => state.evaluate provider gate gate.schedule.admits .verdict candidate
  | .explain name candidate =>
    match state.find? name with
    | none => (state, .noGate)
    | some gate => state.evaluate provider gate gate.rows .rows candidate
  | .read name member =>
    match state.find? name with
    | none => (state, .noGate)
    | some gate =>
      (state,
        match Member.ofName? member.text with
        | some known => .member gate known
        | none => .noMember)
  | .assign name member =>
    match state.find? name with
    | none => (state, .noGate)
    | some _ => (state, assignment member)
  | .calls => (state, .calls state.calls)

def run (provider : Provider) (state : State) : List Step → List Answer
  | [] => []
  | first :: rest =>
    (step provider state first).2 :: run provider (step provider state first).1 rest

end Session

end TimeGate
