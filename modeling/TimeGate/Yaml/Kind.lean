import TimeGate.Yaml.Number
import TimeGate.Yaml.Stamp

/-! The kinds of node. A tag names the kind; an untagged plain scalar gets its kind from its
spelling. -/

set_option autoImplicit false

namespace TimeGate.Yaml

open TimeGate.Decimal

inductive Kind where
  | null
  | bool
  | int
  | float
  | timestamp
  | text
  | binary
  | merge
  | defaultKey
  | sequence
  | mapping
  | set
  | orderedMap
  | pairs
  | unknown
  deriving DecidableEq, Repr

namespace Kind

def ofTag (tag : String) : Kind :=
  match tag with
  | "tag:yaml.org,2002:null" => .null
  | "tag:yaml.org,2002:bool" => .bool
  | "tag:yaml.org,2002:int" => .int
  | "tag:yaml.org,2002:float" => .float
  | "tag:yaml.org,2002:timestamp" => .timestamp
  | "tag:yaml.org,2002:str" => .text
  | "tag:yaml.org,2002:binary" => .binary
  | "tag:yaml.org,2002:merge" => .merge
  | "tag:yaml.org,2002:value" => .defaultKey
  | "tag:yaml.org,2002:seq" => .sequence
  | "tag:yaml.org,2002:map" => .mapping
  | "tag:yaml.org,2002:set" => .set
  | "tag:yaml.org,2002:omap" => .orderedMap
  | "tag:yaml.org,2002:pairs" => .pairs
  | _ => .unknown

end Kind

/-! Spellings. -/

def isGrouped (c : Char) : Bool := c.isDigit || c == '_'

/-- A digit, then digits and underscores. -/
def isGroupedNumeral (text : List Char) : Bool :=
  match text with
  | c :: rest => c.isDigit && rest.all isGrouped
  | [] => false

/-- A part to the base of sixty: one digit, or two of which the first is at most five. -/
def isSixtieth (text : List Char) : Bool :=
  match text with
  | [c] => c.isDigit
  | [high, low] => '0' ≤ high && high ≤ '5' && low.isDigit
  | _ => false

def isExponent (text : List Char) : Bool :=
  match text with
  | [] => true
  | mark :: sign :: digits => (mark == 'e' || mark == 'E') && (sign == '+' || sign == '-') && isNumeral digits
  | _ => false

/-- Digits and underscores after the point, and perhaps an exponent. -/
def isFraction (text : List Char) : Bool := isExponent (text.dropWhile isGrouped)

def spellsFloat (text : List Char) : Bool :=
  let body := dropSign text
  let whole := body.takeWhile (· != '.')
  match body.dropWhile (· != '.') with
  | [] => false
  | _ :: fraction =>
    let word := String.ofList fraction
    if whole.isEmpty then
      ["inf", "Inf", "INF"].contains word ||
        (text.head? = some '.' &&
          (["nan", "NaN", "NAN"].contains word ||
            ((fraction.head?.map Char.isDigit).getD false && isFraction fraction)))
    else if isGroupedNumeral whole then isFraction fraction
    else match Text.pieces ':' whole with
      | first :: second :: rest =>
        isGroupedNumeral first && (second :: rest).all isSixtieth && fraction.all isGrouped
      | _ => false

def spellsInt (text : List Char) : Bool :=
  let body := dropSign text
  match body with
  | ['0'] => true
  | '0' :: 'b' :: rest => !rest.isEmpty && rest.all fun c => c == '0' || c == '1' || c == '_'
  | '0' :: 'x' :: rest => !rest.isEmpty && rest.all fun c => (hexDigit? c).isSome || c == '_'
  | '0' :: rest => rest.all fun c => ('0' ≤ c && c ≤ '7') || c == '_'
  | _ =>
    isGroupedNumeral body ||
      match Text.pieces ':' body with
      | first :: second :: rest => isGroupedNumeral first && (second :: rest).all isSixtieth
      | _ => false
where
  hexDigit? (c : Char) : Option Unit :=
    if c.isDigit || ('a' ≤ c && c ≤ 'f') || ('A' ≤ c && c ≤ 'F') then some () else none

def spellsNull (text : List Char) : Bool := ["", "~", "null", "Null", "NULL"].contains (String.ofList text)

def spellsBool (text : List Char) : Bool :=
  ["yes", "Yes", "YES", "no", "No", "NO", "true", "True", "TRUE", "false", "False", "FALSE",
    "on", "On", "ON", "off", "Off", "OFF"].contains (String.ofList text)

namespace Kind

def isCollection : Kind → Bool
  | .sequence | .mapping | .set | .orderedMap | .pairs => true
  | _ => false

def ofLine (text : List Char) : Kind :=
  if spellsNull text then .null
  else if spellsBool text then .bool
  else if spellsFloat text then .float
  else if spellsInt text then .int
  else if text == ['<', '<'] then .merge
  else if Stamp.isSpelled text then .timestamp
  else if text == ['='] then .defaultKey
  else if text == ['&'] || text == ['*'] || text == ['!'] then .unknown
  else .text

/-- A text without its line end, if it is more than that. -/
def line (text : List Char) : List Char :=
  if text.getLast? = some '\n' && text.length != 1 then text.dropLast else text

/-- The kind that a scalar spells; a line end after it does not matter. -/
def ofSpelling (text : List Char) : Kind := ofLine (line text)

end Kind

end TimeGate.Yaml
