import TimeGate.Text.Quoted
import TimeGate.Text.WordCharacter

/-! The words of a command line. A word is an option, a value or the mark after which nothing is an
option; options may be shortened, joined in one word and carry their value in it. All words are
sorted before any takes effect, so an ambiguous one is reported first.

The rules are those of argparse up to version 3.11.8. Later versions read `--at=--`, `-vx`, `-hx` and
`-vc=x` otherwise. -/

set_option autoImplicit false

namespace TimeGate.Command

inductive Flag where
  | help
  | expression
  | timezone
  | instant
  | strict
  | settings
  | environment
  | verbose
  | level
  deriving DecidableEq, Repr

namespace Flag

def all : List Flag :=
  [.help, .expression, .timezone, .instant, .strict, .settings, .environment, .verbose, .level]

/-- The spellings of a flag, in the order in which they are listed. -/
def spellings : Flag → List String
  | .help => ["-h", "--help"]
  | .expression => ["-e", "--expression"]
  | .timezone => ["-t", "--timezone"]
  | .instant => ["--at"]
  | .strict => ["--strict"]
  | .settings => ["--config", "-c"]
  | .environment => ["--env"]
  | .verbose => ["-v", "--verbose"]
  | .level => ["--log-level"]

def takesValue : Flag → Bool
  | .help | .strict | .verbose => false
  | _ => true

def title (flag : Flag) : String := String.intercalate "/" flag.spellings

def bySpelling : List (List Char × Flag) :=
  all.flatMap fun flag => flag.spellings.map fun spelling => (spelling.toList, flag)

def ofSpelling? (word : List Char) : Option Flag :=
  (bySpelling.find? fun entry => entry.1 == word).map Prod.snd

end Flag

inductive ArgumentError where
  | ambiguous (word : String) (spellings : List String)
  | valueMissing (flag : Flag)
  | valueIgnored (flag : Flag) (value : String)
  | expressionMissing
  | unknown (words : List String)
  deriving DecidableEq, Repr

def ArgumentError.message : ArgumentError → String
  | .ambiguous word spellings =>
    "ambiguous option: " ++ word ++ " could match " ++ String.intercalate ", " spellings
  | .valueMissing flag => "argument " ++ flag.title ++ ": expected one argument"
  | .valueIgnored flag value =>
    "argument " ++ flag.title ++ ": ignored explicit argument " ++ Text.quoted value
  | .expressionMissing => "the following arguments are required: " ++ Flag.expression.title
  | .unknown words => "unrecognized arguments: " ++ String.intercalate " " words

/-- A word as it is sorted. An option may have a value joined to it. -/
inductive Word where
  | plain (word : List Char)
  | separator
  | option (spelling : List Char) (flag : Flag) (joined : Option (List Char))
  | unknownOption (word : List Char)
  deriving DecidableEq, Repr

/-- A dash, digits, and perhaps a point among them; a line end may follow. -/
def looksNegative (word : List Char) : Bool :=
  match word with
  | '-' :: body =>
    let body := if body.getLast? = some '\n' then body.dropLast else body
    let whole := body.takeWhile Text.isDecimalDigit
    match body.dropWhile Text.isDecimalDigit with
    | [] => !whole.isEmpty
    | '.' :: fraction => !fraction.isEmpty && fraction.all Text.isDecimalDigit
    | _ => false
  | _ => false

def beforeEquals (word : List Char) : List Char := word.takeWhile (· != '=')

def afterEquals? (word : List Char) : Option (List Char) :=
  match word.dropWhile (· != '=') with
  | [] => none
  | _ :: rest => some rest

/-- The options that a word may mean though it spells none in full: long ones that it begins, or a
short one with something joined to it. -/
def candidates (word : List Char) : List Word :=
  match word with
  | '-' :: '-' :: _ =>
    let start := beforeEquals word
    (Flag.bySpelling.filter fun entry => start.isPrefixOf entry.1).map fun entry =>
      .option entry.1 entry.2 (afterEquals? word)
  | _ =>
    Flag.bySpelling.filterMap fun entry =>
      if entry.1 == word.take 2 then some (.option entry.1 entry.2 (some (word.drop 2)))
      else if word.isPrefixOf entry.1 then some (.option entry.1 entry.2 none)
      else none

def Word.spelling : Word → String
  | .option spelling _ _ => .ofList spelling
  | .plain word => .ofList word
  | .separator => "--"
  | .unknownOption word => .ofList word

/-- Sorts a word that begins with a dash and is longer than that. -/
def sortDashed (word : List Char) : Except ArgumentError Word :=
  match Flag.ofSpelling? word with
  | some flag => .ok (.option word flag none)
  | none =>
    match afterEquals? word, Flag.ofSpelling? (beforeEquals word) with
    | some value, some flag => .ok (.option (beforeEquals word) flag (some value))
    | _, _ =>
      match candidates word with
      | [only] => .ok only
      | [] =>
        if looksNegative word || word.contains ' ' then .ok (.plain word) else .ok (.unknownOption word)
      | several => .error (.ambiguous (.ofList word) (several.map Word.spelling))

def sortWord (word : List Char) : Except ArgumentError Word :=
  match word with
  | '-' :: _ :: _ => sortDashed word
  | _ => .ok (.plain word)

/-- Sorts all words; after the separator every word is plain. -/
def sortWords : List (List Char) → Except ArgumentError (List Word)
  | [] => .ok []
  | word :: rest =>
    if word == ['-', '-'] then .ok (.separator :: rest.map .plain)
    else do
      let first ← sortWord word
      let others ← sortWords rest
      return first :: others

/-- The value of an option. The separator joined to an option counts as no value at all. -/
inductive Given where
  | text (text : String)
  | nothing
  deriving DecidableEq, Repr

def Given.ofChars (chars : List Char) : Given :=
  if chars == ['-', '-'] then .nothing else .text (.ofList chars)

/-- The text that is given, unless it is empty. -/
def Given.nonempty? : Option Given → Option String
  | some (.text value) => if value.isEmpty then none else some value
  | _ => none

structure Arguments where
  expression : Option Given
  timezone : Option Given
  instant : Option Given
  strict : Bool
  settings : Option Given
  environment : Option Given
  verbose : Bool
  level : Option Given
  deriving DecidableEq, Repr

namespace Arguments

def empty : Arguments := ⟨none, none, none, false, none, none, false, none⟩

/-- Takes a value for an option. The last value of an option counts. -/
def take (arguments : Arguments) (flag : Flag) (value : Given) : Arguments :=
  match flag with
  | .help => arguments
  | .expression => { arguments with expression := some value }
  | .timezone => { arguments with timezone := some value }
  | .instant => { arguments with instant := some value }
  | .strict => { arguments with strict := true }
  | .settings => { arguments with settings := some value }
  | .environment => { arguments with environment := some value }
  | .verbose => { arguments with verbose := true }
  | .level => { arguments with level := some value }

end Arguments

/-- How the option at the end of a cluster gets its value. -/
inductive ClusterEnd where
  | complete
  | holds (flag : Flag) (value : List Char)
  | awaits (flag : Flag)
  deriving DecidableEq, Repr

/-- The flags without a value that a word turns on, and how it ends. Short flags without a value may
have further short options joined to them. -/
def cluster (flag : Flag) (short : Bool) : List Char → Except ArgumentError (List Flag × ClusterEnd)
  | [] =>
    if flag.takesValue then .ok ([], .holds flag [])
    else .error (.valueIgnored flag "")
  | c :: rest =>
    if flag.takesValue then .ok ([], .holds flag (c :: rest))
    else if !short then .error (.valueIgnored flag (.ofList (c :: rest)))
    else match Flag.ofSpelling? ['-', c] with
      | none => .error (.valueIgnored flag (.ofList (c :: rest)))
      | some next =>
        if rest.isEmpty then
          if next.takesValue then .ok ([flag], .awaits next) else .ok ([flag, next], .complete)
        else (cluster next short rest).map fun found => (flag :: found.1, found.2)

def expand (spelling : List Char) (flag : Flag) (joined : Option (List Char)) :
    Except ArgumentError (List Flag × ClusterEnd) :=
  match joined with
  | none => if flag.takesValue then .ok ([], .awaits flag) else .ok ([flag], .complete)
  | some text => cluster flag (spelling[1]? != some '-') text

inductive Reading where
  | help
  | failed (error : ArgumentError)
  | read (arguments : Arguments) (unknown : List String)
  deriving DecidableEq, Repr

def takeFlags (arguments : Arguments) (flags : List Flag) : Arguments :=
  flags.foldl (fun sum flag => sum.take flag .nothing) arguments

/-- Takes sorted words one after the other. Asking for help ends the reading at once. -/
def readWords (arguments : Arguments) (unknown : List String) : List Word → Reading
  | [] => .read arguments unknown
  | .plain word :: rest => readWords arguments (unknown ++ [.ofList word]) rest
  | .separator :: rest => readWords arguments (unknown ++ ["--"]) rest
  | .unknownOption word :: rest => readWords arguments (unknown ++ [.ofList word]) rest
  | .option spelling flag joined :: rest =>
    match expand spelling flag joined with
    | .error e => .failed e
    | .ok (flags, .complete) =>
      if flags.contains .help then .help else readWords (takeFlags arguments flags) unknown rest
    | .ok (flags, .holds last value) =>
      if flags.contains .help then .help
      else readWords ((takeFlags arguments flags).take last (.ofChars value)) unknown rest
    | .ok (flags, .awaits last) =>
      match rest with
      | .plain value :: rest =>
        if flags.contains .help then .help
        else readWords ((takeFlags arguments flags).take last (.ofChars value)) unknown rest
      | _ => .failed (.valueMissing last)

/-- Reads a command line. An expression is required, and nothing may be left over. -/
def readArguments (words : List String) : Reading :=
  match sortWords (words.map String.toList) with
  | .error e => .failed e
  | .ok sorted =>
    match readWords .empty [] sorted with
    | .read arguments unknown =>
      if arguments.expression.isNone then .failed .expressionMissing
      else if !unknown.isEmpty then .failed (.unknown unknown)
      else .read arguments []
    | other => other

end TimeGate.Command
