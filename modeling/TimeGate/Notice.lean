import TimeGate.Schedule.Range
import TimeGate.Text.Quoted

/-! What a run has to tell beside its answer. A notice is a plain fact; severity, channel and
wording are functions of it. Nothing but its report depends on a notice. -/

set_option autoImplicit false

namespace TimeGate

inductive Severity where
  | debug
  | info
  | warning
  deriving DecidableEq, Repr

namespace Severity

def name : Severity → String
  | .debug => "DEBUG"
  | .info => "INFO"
  | .warning => "WARNING"

/-- The higher, the graver. -/
def rank : Severity → Nat
  | .debug => 10
  | .info => 20
  | .warning => 30

end Severity

inductive Notice where
  | scheduleRead (source : String) (schedule : Schedule)
  | gateBuilt (schedule : Schedule) (zone : String) (strict : Bool)
  | zoneUnknown (name : String)
  | zoneResolved (name known : String)
  | variableUnset (name : String)
  | environmentLoaded (path : String)
  | environmentAbsent (path : String)
  | settingsLoaded (path : String)
  | settingsAbsent (path : String)
  | decided (schedule : Schedule) (moment : String) (pinned : Bool) (zone : String) (allowed : Bool)
  deriving DecidableEq, Repr

namespace Notice

def severity : Notice → Severity
  | .scheduleRead .. | .gateBuilt .. | .zoneUnknown _ | .zoneResolved .. => .debug
  | .environmentAbsent _ | .settingsAbsent _ => .debug
  | .environmentLoaded _ | .settingsLoaded _ | .decided .. => .info
  | .variableUnset _ => .warning

def channel : Notice → String
  | .scheduleRead .. => "cronrange.parser"
  | .gateBuilt .. => "cronrange.evaluator"
  | .zoneUnknown _ | .zoneResolved .. => "cronrange.zones"
  | .decided .. => "cronrange.cli"
  | _ => "core.config"

def message : Notice → String
  | .scheduleRead source schedule => "Parsed " ++ Text.quoted source ++ " as " ++ schedule.text
  | .gateBuilt schedule zone strict =>
    "AllowedRange " ++ schedule.text ++ " in " ++ zone ++ " (strict=" ++
      (if strict then "True" else "False") ++ ")"
  | .zoneUnknown name => "Unknown timezone " ++ Text.quoted name
  | .zoneResolved name known => "Resolved timezone " ++ Text.quoted name ++ " as " ++ Text.quoted known
  | .variableUnset name => "Environment variable " ++ name ++ " not set"
  | .environmentLoaded path => "Loaded environment from " ++ path
  | .environmentAbsent path => "No .env file at " ++ path
  | .settingsLoaded path => "Loaded config from " ++ path
  | .settingsAbsent path => "No config file at " ++ path ++ ", using defaults"
  | .decided schedule moment pinned zone allowed =>
    schedule.text ++ " at " ++ moment ++ " (" ++ (if pinned then "fixed" else "now") ++ ") in " ++
      zone ++ ": " ++ (if allowed then "allowed" else "denied")

end Notice

end TimeGate
