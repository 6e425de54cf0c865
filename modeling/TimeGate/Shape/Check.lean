import TimeGate.Shape.Numeral
import TimeGate.Value

/-! Checking loose data against a shape. A check yields a value or a list of issues, each with the
path to the place at fault; the parts of a record are all checked, so that one faulty part does not
hide another. Near misses are let pass: whole floating-point numbers and numerals as integers,
words for truth values. -/

set_option autoImplicit false

namespace TimeGate

inductive IssueKind where
  | missing
  | notRecord
  | notText
  | notCharacters
  | notLiteral
  | notSequence
  | notInteger
  | notNumeral
  | hugeNumeral
  | fractional
  | notFinite
  | notTruthValue
  | noTruthWord
  | tooShort
  | notTagged
  | tagAbsent
  | tagUnknown
  deriving DecidableEq, Repr

def IssueKind.name : IssueKind → String
  | .missing => "missing"
  | .notRecord => "model_type"
  | .notText => "string_type"
  | .notCharacters => "string_unicode"
  | .notLiteral => "literal_error"
  | .notSequence => "tuple_type"
  | .notInteger => "int_type"
  | .notNumeral => "int_parsing"
  | .hugeNumeral => "int_parsing_size"
  | .fractional => "int_from_float"
  | .notFinite => "finite_number"
  | .notTruthValue => "bool_type"
  | .noTruthWord => "bool_parsing"
  | .tooShort => "too_short"
  | .notTagged => "model_attributes_type"
  | .tagAbsent => "union_tag_not_found"
  | .tagUnknown => "union_tag_invalid"

/-- Where and what. The path names keys and positions from the outside in. -/
structure Issue where
  path : List String
  kind : IssueKind
  deriving DecidableEq, Repr

abbrev Checked (α : Type) := Except (List Issue) α

namespace Checked

variable {α β : Type}

def fail (kind : IssueKind) : Checked α := .error [⟨[], kind⟩]

/-- Places the issues of a part under its name. -/
def under (name : String) : Checked α → Checked α
  | .ok a => .ok a
  | .error issues => .error (issues.map fun issue => { issue with path := name :: issue.path })

/-- Both parts, or the issues of both in order. -/
def both : Checked α → Checked β → Checked (α × β)
  | .ok a, .ok b => .ok (a, b)
  | .ok _, .error issues => .error issues
  | .error issues, .ok _ => .error issues
  | .error first, .error second => .error (first ++ second)

end Checked

namespace Shape

variable {α : Type}

abbrev Entries := List (Scalar × Value)

def entry (name : String) (value : Value) : Scalar × Value := (.text name, value)

def decoded? (bytes : List UInt8) : Option String := String.fromUTF8? ⟨bytes.toArray⟩

def record : Value → Checked Entries
  | .map entries => .ok entries
  | _ => .fail .notRecord

def required (name : String) (check : Value → Checked α) (entries : Entries) : Checked α :=
  match lookupText name entries with
  | none => .error [⟨[name], .missing⟩]
  | some value => (check value).under name

/-- A part that may be absent. -/
def optional (name : String) (absent : α) (check : Value → Checked α) (entries : Entries) : Checked α :=
  match lookupText name entries with
  | none => .ok absent
  | some value => (check value).under name

/-- A text. Bytes count as the text that they encode. -/
def text : Value → Checked String
  | .text s => .ok s
  | .scalar (.foreign (.ragged _)) => .fail .notCharacters
  | .scalar (.foreign (.bytes bytes)) =>
    match decoded? bytes with
    | some s => .ok s
    | none => .fail .notCharacters
  | _ => .fail .notText

def literal (word : String) : Value → Checked Unit
  | .text s => if s = word then .ok () else .fail .notLiteral
  | _ => .fail .notLiteral

def integerText (written : List Char) : Checked Int :=
  match Numeral.read written with
  | .integer n => .ok n
  | .tooLong => .fail .hugeNumeral
  | .unreadable => .fail .notNumeral

/-- Half the count of the integers of 64 bits. -/
def wholeLimit : Int := 9223372036854775808

/-- A floating-point number stands for an integer if it is whole and fits into 64 bits. -/
def wholeFloat (x : Decimal.Binary64) : Checked Int :=
  match x with
  | .finite .. =>
    match x.toInt? with
    | none => .fail .fractional
    | some n => if -wholeLimit < n && n < wholeLimit then .ok n else .fail .hugeNumeral
  | _ => .fail .notFinite

def integer : Value → Checked Int
  | .int n => .ok n
  | .bool b => .ok (if b then 1 else 0)
  | .float x => wholeFloat x
  | .text s => integerText s.toList
  | _ => .fail .notInteger

def trueWords : List String := ["1", "on", "t", "true", "y", "yes"]

def falseWords : List String := ["0", "off", "f", "false", "n", "no"]

/-- The truth value that a word stands for. Letter case does not matter; blanks do. -/
def truthWord (word : String) : Checked Bool :=
  let plain := String.ofList (word.toList.map Char.toLower)
  if falseWords.contains plain then .ok false
  else if trueWords.contains plain then .ok true
  else .fail .noTruthWord

/-- An integer of 64 bits stands for a truth value if it is zero or one; another is no truth value, and a
larger integer is not looked at. -/
def truthOfInteger (n : Int) : Checked Bool :=
  if n = 0 then .ok false
  else if n = 1 then .ok true
  else if -wholeLimit ≤ n && n < wholeLimit then .fail .noTruthWord
  else .fail .notTruthValue

/-- A floating-point number that is whole counts as its integer, the least of 64 bits left out. -/
def truthOfFloat (x : Decimal.Binary64) : Checked Bool :=
  match x.toInt? with
  | some n => if n = -wholeLimit then .fail .notTruthValue else truthOfInteger n
  | none => .fail .notTruthValue

def truth : Value → Checked Bool
  | .bool b => .ok b
  | .text s => truthWord s
  | .int n => truthOfInteger n
  | .float x => truthOfFloat x
  | .scalar (.foreign (.ragged _)) => .fail .notCharacters
  | .scalar (.foreign (.bytes bytes)) =>
    match decoded? bytes with
    | some s => truthWord s
    | none => .fail .noTruthWord
  | _ => .fail .notTruthValue

end Shape

end TimeGate
