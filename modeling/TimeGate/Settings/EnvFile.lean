import TimeGate.Settings.Environment
import TimeGate.Text.Words

/-! Environment files: lines that bind names to values. A value is bare up to a comment, or stands in
quotes and may then span lines. Values refer to variables, with a default if wished; a variable of
the process goes before one of the file. A line that breaks the rules is passed over. -/

set_option autoImplicit false

namespace TimeGate.EnvFile

structure Binding where
  name : String
  /-- A name may stand alone, and is then not bound. -/
  value : Option String
  deriving DecidableEq, Repr

def isInlineBlank (c : Char) : Bool := Text.isBlank c && c != '\n' && c != '\r'

def skipBlanks (text : List Char) : List Char := text.dropWhile isInlineBlank

def afterLine (text : List Char) : List Char := (text.dropWhile (· != '\n')).drop 1

/-- The content up to the closing quote, and what follows it. A quote after a backslash closes only
if no later one does. -/
def quotedContent? (quote : Char) : List Char → Option (List Char × List Char)
  | [] => none
  | [c] => if c = quote then some ([], []) else none
  | c :: next :: rest =>
    if c = quote then some ([], next :: rest)
    else if c = '\\' && next = quote then
      match quotedContent? quote rest with
      | some (content, after) => some (c :: next :: content, after)
      | none => some ([c], rest)
    else (quotedContent? quote (next :: rest)).map fun found => (c :: found.1, found.2)

def singleEscape? : Char → Option Char
  | '\\' => some '\\'
  | '\'' => some '\''
  | _ => none

def doubleEscape? : Char → Option Char
  | '\\' => some '\\'
  | '\'' => some '\''
  | '"' => some '"'
  | 'a' => some '\x07'
  | 'b' => some '\x08'
  | 'f' => some '\x0c'
  | 'n' => some '\n'
  | 'r' => some '\r'
  | 't' => some '\t'
  | 'v' => some '\x0b'
  | _ => none

/-- Replaces known escapes; a backslash before anything else stays. -/
def unescape (escape? : Char → Option Char) : List Char → List Char
  | [] => []
  | [c] => [c]
  | c :: next :: rest =>
    if c = '\\' then
      match escape? next with
      | some plain => plain :: unescape escape? rest
      | none => c :: unescape escape? (next :: rest)
    else c :: unescape escape? (next :: rest)

/-- A bare value without its comment: a mark with a blank before it ends the value. -/
def withoutComment : List Char → List Char
  | [] => []
  | c :: rest =>
    if Text.isBlank c && (rest.dropWhile Text.isBlank).head? = some '#' then []
    else c :: withoutComment rest

def readValue (text : List Char) : Option (List Char × List Char) :=
  match text with
  | '\'' :: rest => (quotedContent? '\'' rest).map fun found => (unescape singleEscape? found.1, found.2)
  | '"' :: rest => (quotedContent? '"' rest).map fun found => (unescape doubleEscape? found.1, found.2)
  | _ =>
    let line := text.takeWhile (· != '\n')
    some (Text.trimEnd (withoutComment line), text.dropWhile (· != '\n'))

/-- A name in single quotes, or up to a blank, an equals sign or a comment mark. -/
def readName (text : List Char) : Option (List Char × List Char) :=
  match text with
  | '\'' :: rest =>
    let name := rest.takeWhile (· != '\'')
    match rest.dropWhile (· != '\'') with
    | _ :: after => if name.isEmpty then none else some (name, after)
    | [] => none
  | _ =>
    let inName (c : Char) := c != '=' && c != '#' && !Text.isBlank c
    let name := text.takeWhile inName
    if name.isEmpty then none else some (name, text.dropWhile inName)

def skipExport (text : List Char) : List Char :=
  if text.take 6 == "export".toList && ((text.drop 6).head?.map isInlineBlank).getD false then
    skipBlanks (text.drop 6)
  else text

def endOfLine? (text : List Char) : Option (List Char) :=
  let rest := skipBlanks text
  let rest := if rest.head? = some '#' then rest.dropWhile (· != '\n') else rest
  match rest with
  | [] => some []
  | '\n' :: after => some after
  | _ => none

/-- From after the name: the value, if there is one, and what follows the line. -/
def readRest (name text : List Char) : Option (Binding × List Char) := do
  match skipBlanks text with
  | '=' :: rest =>
    let (value, rest) ← readValue (skipBlanks rest)
    let after ← endOfLine? rest
    return (⟨.ofList name, some (.ofList value)⟩, after)
  | rest =>
    let after ← endOfLine? rest
    return (⟨.ofList name, none⟩, after)

def readLine (text : List Char) : Option Binding × List Char :=
  let line := skipExport (Text.trimStart text)
  if line.isEmpty || line.head? = some '#' then (none, afterLine line)
  else match readName line with
    | none => (none, afterLine line)
    | some (name, rest) =>
      match readRest name rest with
      | some (binding, after) => (some binding, after)
      | none =>
        /- The text that a quoted value took is not given back when junk follows it. -/
        let junk := match skipBlanks rest with
          | '=' :: value =>
            match readValue (skipBlanks value) with
            | some (_, after) => after
            | none => skipBlanks value
          | other => other
        (none, afterLine junk)

/-- The bindings of a text. Every line takes at least one character, which bounds their number. -/
def readLines : Nat → List Char → List Binding
  | 0, _ => []
  | bound + 1, text =>
    if text.isEmpty then []
    else match readLine text with
      | (some binding, after) => binding :: readLines bound after
      | (none, after) => readLines bound after

def read (text : List Char) : List Binding := readLines (text.length + 1) text

/-! References. -/

structure Reference where
  name : List Char
  default : List Char
  /-- How many characters it takes. -/
  length : Nat
  deriving DecidableEq, Repr

/-- The reference at the start of a text: a name in braces after a dollar sign, perhaps with a
colon, a dash and a default. -/
def referenceAt? : List Char → Option Reference
  | '$' :: '\x7b' :: rest =>
    let name := rest.takeWhile fun c => c != '\x7d' && c != ':'
    match rest.dropWhile fun c => c != '\x7d' && c != ':' with
    | '\x7d' :: _ => some ⟨name, [], name.length + 3⟩
    | ':' :: '-' :: rest =>
      let default := rest.takeWhile (· != '\x7d')
      if (rest.dropWhile (· != '\x7d')).isEmpty then none
      else some ⟨name, default, name.length + default.length + 5⟩
    | _ => none
  | _ => none

/-- The text with its references replaced by what `find` gives for them. -/
def expandAfter (find : Reference → List Char) : Nat → List Char → List Char
  | _, [] => []
  | skipped + 1, _ :: rest => expandAfter find skipped rest
  | 0, c :: rest =>
    match referenceAt? (c :: rest) with
    | some reference => find reference ++ expandAfter find (reference.length - 1) rest
    | none => c :: expandAfter find 0 rest

/-- The names of a file that are met so far, bound or not. -/
abbrev Names := List (String × Option String)

def putName (names : Names) (name : String) (value : Option String) : Names :=
  if names.any fun entry => entry.1 == name then
    names.map fun entry => if entry.1 == name then (name, value) else entry
  else names ++ [(name, value)]

/-- The value of a reference: from the process, else from earlier lines, else its default. A name
that stands alone counts as empty. -/
def lookUp (environment : Environment) (names : Names) (reference : Reference) : List Char :=
  let name := String.ofList reference.name
  match environment.get? name with
  | some value => value.toList
  | none =>
    match names.find? fun entry => entry.1 == name with
    | some (_, some value) => value.toList
    | some (_, none) => []
    | none => reference.default

def expandBinding (environment : Environment) (names : Names) (binding : Binding) : Names :=
  putName names binding.name
    (binding.value.map fun value => .ofList (expandAfter (lookUp environment names) 0 value.toList))

def names (environment : Environment) (text : List Char) : Names :=
  (read text).foldl (expandBinding environment) []

/-- Sets the names that are not set yet. It stops at the first binding that no environment can hold; what
was set before stays. -/
def apply (environment : Environment) : Names → Bool × Environment
  | [] => (true, environment)
  | (name, value) :: rest =>
    match value with
    | none => apply environment rest
    | some value =>
      if environment.contains name then apply environment rest
      else if Environment.canHold name value then apply (environment.set name value) rest
      else (false, environment)

def load (environment : Environment) (text : List Char) : Bool × Environment :=
  apply environment (names environment text)

end TimeGate.EnvFile
