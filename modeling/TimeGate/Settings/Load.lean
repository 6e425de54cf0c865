import TimeGate.Notice
import TimeGate.Settings.EnvFile
import TimeGate.Settings.Interpolation
import TimeGate.Settings.Path
import TimeGate.Shape.Records
import TimeGate.Yaml.Document

/-! Loading the settings. The environment file comes first and only adds variables; then the
settings file is read and its references are resolved; two variables go before what it says; last
the whole is checked. Each file may be missing. -/

set_option autoImplicit false

namespace TimeGate

inductive LoadError where
  | homeUnknown
  /-- The bytes of a file are not text. -/
  | garbled
  /-- A variable of the environment file can be held by no environment. -/
  | unsettable
  | folder
  | unreachable
  | document (fault : Yaml.Fault)
  /-- The document is neither a mapping nor as good as nothing. -/
  | notMapping (path kind : String)
  /-- A collection of the document holds itself. -/
  | endless
  | keyNotText
  | invalid (issues : List Issue)
  deriving Repr

/-- The one wording that is the program's own. -/
def LoadError.message? : LoadError → Option String
  | .notMapping path kind => some ("Config file " ++ path ++ " must hold a mapping, got " ++ kind)
  | _ => none

/-- What loading depends on besides the paths that it is given. -/
structure Surroundings where
  environment : Environment
  /-- The home folder that the account has where no variable tells one. -/
  accountHome : Path
  look : Path → Found

namespace Settings

def homeVariable : String := "CRONRANGE_HOME"

def timezoneVariable : String := "CRONRANGE_TIMEZONE"

def strictVariable : String := "CRONRANGE_STRICT"

section Home

variable (environment : Environment) (accountHome : Path)

/-- The user's home folder, if it is known. Its own name cannot start with a tilde. -/
def userHome? : Option Path :=
  match environment.get? "HOME" with
  | none => some accountHome
  | some home =>
    if home.toList.all (· == '/') then some (.ofText "/")
    else if home.startsWith "~" then none
    else some (.ofText home)

/-- A leading tilde stands for the user's home folder, which must be known. -/
def expandHome (path : Path) : Option Path :=
  match path.root, path.steps with
  | "", first :: rest =>
    if first == "~" then
      (userHome? environment accountHome).map fun home => { home with steps := home.steps ++ rest }
    else if first.startsWith "~" then none
    else some path
  | _, _ => some path

/-- The home folder of the program. Only one that is named by a variable can be unknown. -/
def home? : Option Path :=
  match environment.get? homeVariable with
  | none => some (((userHome? environment accountHome).getD accountHome).child ".cronrange")
  | some name => expandHome environment accountHome (.ofText name)

end Home

def loadEnvironment (surroundings : Surroundings) (path : Path) :
    Except LoadError Unit × Environment × List Notice :=
  let environment := surroundings.environment
  match surroundings.look path with
  | .absent => (.ok (), environment, [.environmentAbsent path.text])
  | .unreachable => (.error .unreachable, environment, [])
  | .folder => (.ok (), environment, [.environmentLoaded path.text])
  | .file .garbled => (.error .garbled, environment, [])
  | .file (.text text) =>
    match EnvFile.load environment (Text.unifyLines text.toList) with
    | (true, environment) => (.ok (), environment, [.environmentLoaded path.text])
    | (false, environment) => (.error .unsettable, environment, [])

def readDocument (look : Path → Found) (path : Path) : Except LoadError (Option Value) :=
  match look path with
  | .absent => .ok none
  | .unreachable => .error .unreachable
  | .folder => .error .folder
  | .file .garbled => .error .garbled
  | .file (.text text) =>
    match Yaml.read (Text.unifyLines text.toList) with
    | .ok value => .ok (some value)
    | .error fault => .error (.document fault)

def documentNotice (path : Path) (document : Option Value) : Notice :=
  match document with
  | none => .settingsAbsent path.text
  | some _ => .settingsLoaded path.text

/-- The entries of a document; what counts as nothing has none. -/
def entriesOf (path : Path) : Option Value → Except LoadError Shape.Entries
  | none => .ok []
  | some (.map entries) => .ok entries
  | some document => if document.isFalsy then .ok [] else .error (.notMapping path.text document.kindName)

def putText (entries : Shape.Entries) (name : String) : Option String → Shape.Entries
  | none => entries
  | some text => Shape.entry name (.text text) :: entries.filter fun entry => entry.1 != .text name

/-- Puts in the variables that go before the document. They are taken as they stand. -/
def override (environment : Environment) (entries : Shape.Entries) : Shape.Entries :=
  putText (putText entries "timezone" (environment.get? timezoneVariable)) "strict"
    (environment.get? strictVariable)

def isTextKey (entry : Scalar × Value) : Bool :=
  match entry.1 with
  | .text _ | .foreign (.ragged _) => true
  | _ => false

/-- Settings from the entries of a document, in an environment. -/
def ofEntries (environment : Environment) (entries : Shape.Entries) : Except LoadError Settings :=
  let resolved := override environment (Interpolation.resolveEntries environment entries)
  if Value.someEntryEndless entries then .error .endless
  else if !resolved.all isTextKey then .error .keyNotText
  else match checkEntries resolved with
    | .ok settings => .ok settings
    | .error issues => .error (.invalid issues)

/-- The part of loading that comes after the environment file. -/
def loadDocument (environment : Environment) (look : Path → Found) (path : Path) :
    Except LoadError Settings × List Notice :=
  match readDocument look path with
  | .error e => (.error e, [])
  | .ok document =>
    match entriesOf path document with
    | .error e => (.error e, [documentNotice path document])
    | .ok entries =>
      (ofEntries environment entries,
        documentNotice path document ::
          (Interpolation.unsetInEntries environment entries).map Notice.variableUnset)

structure Sources where
  environment : Path
  settings : Path
  deriving DecidableEq, Repr

/-- The given paths, and the files of the home folder where none is given. The home folder has to be known
even if both are. -/
def sources? (environment : Environment) (accountHome : Path)
    (settingsPath environmentPath : Option String) : Option Sources :=
  (home? environment accountHome).map fun home =>
    { environment := (environmentPath.map Path.ofText).getD (home.child ".env")
      settings := (settingsPath.map Path.ofText).getD (home.child "config.yaml") }

structure Loaded where
  result : Except LoadError Settings
  environment : Environment
  notices : List Notice

def load (surroundings : Surroundings) (settingsPath environmentPath : Option String) : Loaded :=
  match sources? surroundings.environment surroundings.accountHome settingsPath environmentPath with
  | none => ⟨.error .homeUnknown, surroundings.environment, []⟩
  | some sources =>
    match loadEnvironment surroundings sources.environment with
    | (.error e, environment, notices) => ⟨.error e, environment, notices⟩
    | (.ok (), environment, notices) =>
      let (result, more) := loadDocument environment surroundings.look sources.settings
      ⟨result, environment, notices ++ more⟩

end Settings

end TimeGate
