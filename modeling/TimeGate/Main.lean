import Std.Time.DateTime.Timestamp
import TimeGate.Command.Run
import TimeGate.Zone.Atlas

/-! The command. What a run needs from its surroundings is taken here, before the run: variables, the
two files it may look at, and the present moment. -/

set_option autoImplicit false

namespace TimeGate.Main

/-- The bytes between null bytes, as far as they are text. -/
def nullSeparated (bytes : ByteArray) : List String :=
  ((String.fromUTF8? bytes).getD "").splitOn "\x00"

/-- Splits a binding at its first equals sign. -/
def binding? (text : String) : Option (String × String) :=
  match text.splitOn "=" with
  | name :: value :: rest => some (name, String.intercalate "=" (value :: rest))
  | _ => none

def environment : IO Environment := do
  let .ok bytes ← (IO.FS.readBinFile "/proc/self/environ").toBaseIO | return .empty
  return .ofList ((nullSeparated bytes).filterMap binding?)

/-- The number of the account that a process runs for, by its status. -/
def accountOf? (status : String) : Option String :=
  (status.splitOn "\n").findSome? fun line =>
    match line.splitOn "\t" with
    | "Uid:" :: number :: _ => some number
    | _ => none

/-- The home folder of an account, by the list of all accounts. -/
def homeOf? (accounts account : String) : Option String :=
  (accounts.splitOn "\n").findSome? fun line =>
    match line.splitOn ":" with
    | [_, _, number, _, _, home, _] => if number == account then some home else none
    | _ => none

def readText (name : String) : IO String := do
  let .ok bytes ← (IO.FS.readBinFile name).toBaseIO | return ""
  return (String.fromUTF8? bytes).getD ""

def accountHome : IO Path := do
  let status ← readText "/proc/self/status"
  let accounts ← readText "/etc/passwd"
  return .ofText (((accountOf? status).bind (homeOf? accounts)).getD "/")

def found (path : Path) : IO Found := do
  let place : IO.FS.DirEntry := ⟨".", path.text⟩
  if ← place.path.isDir then return .folder
  match ← (IO.FS.readBinFile place.path).toBaseIO with
  | .error (.noFileOrDirectory ..) | .error (.inappropriateType ..) => return .absent
  | .error _ => return .unreachable
  | .ok bytes =>
    match String.fromUTF8? bytes with
    | some text => return .file (.text text)
    | none => return .file .garbled

def look (sources : Option Settings.Sources) : IO (Path → Found) := do
  let some sources := sources | return fun _ => .absent
  let environmentFile ← found sources.environment
  let settingsFile ← found sources.settings
  return fun path =>
    if path = sources.environment then environmentFile
    else if path = sources.settings then settingsFile
    else .absent

def present : IO DateTime := do
  let moment ← Std.Time.Timestamp.now
  match DateTime.utc? (moment.toNanosecondsSinceUnixEpoch.val / 1000) with
  | some moment => return moment
  | none => throw (IO.userError EvaluationError.outOfCalendar.message)

def stamp (moment : DateTime) : String :=
  String.ofList (Iso.dateChars moment.date ++ ' ' :: (Iso.clockChars moment.clock).take 8)

def wording : LoadError → String
  | .invalid issues =>
    String.intercalate "; " (issues.map fun issue =>
      String.intercalate "." issue.path ++ " (" ++ issue.kind.name ++ ")")
  | .homeUnknown => "the home folder is unknown"
  | .folder => "the settings file is a folder"
  | .unreachable => "a path is too long"
  | .endless => "a collection of the document holds itself"
  | .keyNotText => "a key of the document is not a text"
  | .garbled => "a file does not hold text"
  | .unsettable => "a variable cannot be set"
  | .notMapping .. | .document _ => "the document cannot be read"

def breakdownMessage (setting : Command.Setting) : Command.Breakdown → String
  | .settings error => setting.reason error
  | .settingsPath => "a path is missing"
  | .level _ => "the level cannot be used"
  | .instant => "the instant is missing"
  | .numeralTooLong => "a numeral has too many digits"
  | .lookup _ => "the zone cannot be looked for"
  | .outOfCalendar => EvaluationError.outOfCalendar.message

def run (words : List String) : IO UInt32 := do
  let environment ← environment
  let accountHome ← accountHome
  let look ← look (Command.sources? environment accountHome words)
  let present ← present
  let setting : Command.Setting :=
    { provider := Atlas.provider
      surroundings := ⟨environment, accountHome, look⟩
      now := present
      stamp := stamp present
      wording := wording }
  let outcome := Command.run setting words
  IO.print outcome.stdout
  IO.eprint outcome.stderr
  match outcome.ending with
  | .status code => return code.toUInt32
  | .broken cause =>
    IO.eprintln (Command.programName ++ ": " ++ breakdownMessage setting cause)
    return 1

end TimeGate.Main

def main (words : List String) : IO UInt32 := TimeGate.Main.run words
