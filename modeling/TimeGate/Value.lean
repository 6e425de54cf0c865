import TimeGate.Decimal.Shortest
import TimeGate.Text.CodePoints
import TimeGate.Text.Pieces
import TimeGate.Text.Quoted

/-! Loose data: what a document or a caller may hand over before it is checked. Keys of a map are
scalars, so a map never has a list or another map as a key.

Texts are made of characters. What a caller hands over may hold lone surrogates besides, which no `String`
can; only the texts of documents are kept with them, as `Foreign.ragged`. -/

set_option autoImplicit false

namespace TimeGate

open TimeGate.Decimal

/-- Leaves that callers cannot give and only documents hold. Of what a set or a pair holds nothing
is kept. -/
inductive Foreign where
  /-- Dates by their day number. -/
  | date (dayNumber : Nat)
  /-- Moments by their point on the time line, those without an offset apart from those with one. -/
  | moment (instant : Int) (isAware : Bool)
  | bytes (content : List UInt8)
  /-- A text in which some code points are no characters. -/
  | ragged (points : Text.CodePoints)
  | set (isEmpty : Bool)
  | pair
  /-- The place where a list or a map is found again inside itself. -/
  | loop
  deriving DecidableEq, Repr

inductive Scalar where
  | null
  | bool (b : Bool)
  | int (n : Int)
  | float (x : Binary64)
  | text (s : String)
  | foreign (leaf : Foreign)
  deriving DecidableEq, Repr

inductive Value where
  | scalar (leaf : Scalar)
  | list (items : List Value)
  | map (entries : List (Scalar × Value))
  deriving Repr, Inhabited

namespace Foreign

def kindName : Foreign → String
  | .date _ => "date"
  | .moment .. => "datetime"
  | .bytes _ => "bytes"
  | .ragged _ => "str"
  | .set _ => "set"
  | .pair => "tuple"
  | .loop => "list"

/-- Empty bytes and empty sets count as nothing. -/
def isEmpty : Foreign → Bool
  | .bytes content => content.isEmpty
  | .set empty => empty
  | _ => false

end Foreign

namespace Scalar

def kindName : Scalar → String
  | .null => "NoneType"
  | .bool _ => "bool"
  | .int _ => "int"
  | .float _ => "float"
  | .text _ => "str"
  | .foreign leaf => leaf.kindName

def display : Scalar → List Char
  | .null => "None".toList
  | .bool true => "True".toList
  | .bool false => "False".toList
  | .int n => signedDigits n
  | .float x => x.text
  | .text s => Text.quoteChars s.toList
  | .foreign leaf => leaf.kindName.toList

/-- The integer a scalar counts as when keys are compared. -/
def asInt? : Scalar → Option Int
  | .bool b => some (if b then 1 else 0)
  | .int n => some n
  | .float x => x.toInt?
  | _ => none

/-- Keys agree if they are equal, or are numbers of equal value. -/
def sameKey (left right : Scalar) : Bool :=
  left == right || (left.asInt?.isSome && left.asInt? == right.asInt?)

end Scalar

namespace Value

@[match_pattern] def null : Value := .scalar .null
@[match_pattern] def bool (b : Bool) : Value := .scalar (.bool b)
@[match_pattern] def int (n : Int) : Value := .scalar (.int n)
@[match_pattern] def float (x : Binary64) : Value := .scalar (.float x)
@[match_pattern] def text (s : String) : Value := .scalar (.text s)

def kindName : Value → String
  | .scalar leaf => leaf.kindName
  | .list _ => "list"
  | .map _ => "dict"

mutual

def display : Value → List Char
  | .scalar leaf => leaf.display
  | .list items => '[' :: (Text.joined [',', ' '] (displayItems items) ++ [']'])
  | .map entries => '\x7b' :: (Text.joined [',', ' '] (displayEntries entries) ++ ['\x7d'])

def displayItems : List Value → List (List Char)
  | [] => []
  | item :: rest => display item :: displayItems rest

def displayEntries : List (Scalar × Value) → List (List Char)
  | [] => []
  | (key, value) :: rest => (key.display ++ [':', ' '] ++ display value) :: displayEntries rest

end

/-- Empty collections, empty texts, zeros, `false` and null count as nothing at all. -/
def isFalsy : Value → Bool
  | .scalar .null => true
  | .scalar (.bool b) => !b
  | .scalar (.int n) => n == 0
  | .scalar (.float x) => x.isZero
  | .scalar (.text s) => s.isEmpty
  | .scalar (.foreign leaf) => leaf.isEmpty
  | .list items => items.isEmpty
  | .map entries => entries.isEmpty

mutual

/-- Whether a value holds itself somewhere. -/
def isEndless : Value → Bool
  | .scalar leaf => leaf == .foreign .loop
  | .list items => someItemEndless items
  | .map entries => someEntryEndless entries

def someItemEndless : List Value → Bool
  | [] => false
  | item :: rest => isEndless item || someItemEndless rest

def someEntryEndless : List (Scalar × Value) → Bool
  | [] => false
  | (_, value) :: rest => isEndless value || someEntryEndless rest

end

end Value

/-- Looks a text key up. -/
def lookupText (name : String) (entries : List (Scalar × Value)) : Option Value :=
  (entries.find? fun entry => entry.1 == .text name).map Prod.snd

end TimeGate
