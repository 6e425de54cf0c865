import TimeGate.Decimal.Numeral
import TimeGate.Text.Pieces
import TimeGate.Text.Words

/-! Integers written out by hand. White space around them, a plus sign, zeros in front, a point with
zeros behind and single underscores between digits are let pass. -/

set_option autoImplicit false

namespace TimeGate.Shape.Numeral

/-- Zeros and underscores in front, of which `last` is the one before the rest. They end at a digit
or a minus sign; before a point, and at the end, the last of them stays. -/
def afterZeros (last : Char) : List Char → Option (List Char)
  | [] => some [last]
  | c :: rest =>
    if c = '0' || c = '_' then afterZeros c rest
    else if c.isDigit || c = '-' then some (c :: rest)
    else if c = '.' then some (last :: c :: rest)
    else none

/-- The text without its zeros in front. It has to start with a digit. -/
def withoutZeros : List Char → Option (List Char)
  | [] => none
  | c :: rest =>
    if c = '0' then afterZeros c rest
    else if c.isDigit then some (c :: rest)
    else none

/-- The text without a point that only zeros follow, at least one of them. -/
def withoutPoint (text : List Char) : List Char :=
  match text.dropWhile (· != '.') with
  | _ :: zeros =>
    if !zeros.isEmpty && zeros.all (· == '0') then text.takeWhile (· != '.') else text
  | [] => text

/-- The text without its underscores if each has a neighbour on either side that is none. -/
def withoutUnderscores (text : List Char) : List Char :=
  let groups := Text.pieces '_' text
  if groups.all fun group => !group.isEmpty then groups.flatten else text

/-- A sign goes in front; a minus sign may also follow zeros, a second one may not. -/
def plain? (text : List Char) : Option (List Char) :=
  let trimmed := ((text.dropWhile Text.isSpace).reverse.dropWhile Text.isSpace).reverse
  let unsigned := match trimmed with
    | '-' :: rest => (withoutZeros rest).map ('-' :: ·)
    | '+' :: rest => withoutZeros rest
    | rest => withoutZeros rest
  unsigned.map fun rest => withoutUnderscores (withoutPoint rest)

inductive Reading where
  | integer (n : Int)
  | tooLong
  | unreadable
  deriving DecidableEq, Repr

/-- Digits with a minus sign or without; no zero comes before another digit. A sign counts towards the
digit limit, and what follows too many digits is not looked at. -/
def readPlain (text : List Char) : Reading :=
  let negative := text.head? = some '-'
  let body := if negative then text.drop 1 else text
  let digits := body.takeWhile Char.isDigit
  if body.head? = some '0' && body.length != 1 then .unreadable
  else if Decimal.digitLimit < digits.length + text.length - body.length then .tooLong
  else if !Decimal.isNumeral body then .unreadable
  else .integer (if negative then -(Decimal.value digits : Int) else (Decimal.value digits : Int))

def read (text : List Char) : Reading :=
  match plain? text with
  | some plain => readPlain plain
  | none => .unreadable

end TimeGate.Shape.Numeral
