import TimeGate.Notice
import TimeGate.Text.Case

/-! How much a run reports. A level is named in any letter case; a text that names none counts as
the level of warnings, but two names mean something else than a level and cannot be used. -/

set_option autoImplicit false

namespace TimeGate.Command

inductive LevelError where
  /-- A text stands behind the name. -/
  | notLevel
  /-- Neither a number nor a text stands behind the name. -/
  | notNamed
  deriving DecidableEq, Repr

/-- The least rank that is reported. -/
def levelRank (level : String) : Except LevelError Nat :=
  match String.ofList (Text.upper level.toList) with
  | "CRITICAL" | "FATAL" => .ok 50
  | "ERROR" => .ok 40
  | "INFO" => .ok 20
  | "DEBUG" => .ok 10
  | "NOTSET" => .ok 0
  | "BASIC_FORMAT" => .error .notLevel
  | "_STYLES" => .error .notNamed
  | _ => .ok 30

def isReported (least : Nat) (notice : Notice) : Bool := least ≤ notice.severity.rank

def noticeLine (stamp : String) (notice : Notice) : String :=
  stamp ++ " [" ++ notice.severity.name ++ "] " ++ notice.channel ++ ": " ++ notice.message ++ "\n"

def noticeLines (stamp : String) (least : Nat) (notices : List Notice) : String :=
  String.join ((notices.filter (isReported least)).map (noticeLine stamp))

/-- What is printed before the level is known: only warnings, and without a stamp. -/
def earlyLines (notices : List Notice) : String :=
  String.join ((notices.filter (isReported Severity.warning.rank)).map fun notice => notice.message ++ "\n")

end TimeGate.Command
