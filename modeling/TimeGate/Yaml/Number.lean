import TimeGate.Decimal.Binary64
import TimeGate.Decimal.Numeral
import TimeGate.Text.Pieces
import TimeGate.Text.WordCharacter
import TimeGate.Text.Words
import TimeGate.Yaml.Cursor

/-! Numbers as scalars write them, and numbers that a scalar is tagged to be. Underscores do not count.
A number may have parts to the base of sixty, and each part is a numeral of its own: with white space
around it, a sign, and the decimal digits of any script. -/

set_option autoImplicit false

namespace TimeGate.Yaml

open TimeGate.Decimal

def withoutUnderscores (text : List Char) : List Char := text.filter (· != '_')

def dropSign (text : List Char) : List Char :=
  match text with
  | '+' :: rest | '-' :: rest => rest
  | _ => text

def isNegative (text : List Char) : Bool := text.head? = some '-'

/-- Decimal digits and white space beyond ASCII as those of ASCII. -/
def plainCharacter (c : Char) : Char :=
  if c.toNat < 0x80 then c
  else if Text.isSpace c then ' '
  else match Text.decimalDigit? c with
    | some digit => Nat.digitChar digit
    | none => c

def isNumeralSpace (c : Char) : Bool := c == ' ' || ('\t' ≤ c && c ≤ '\r')

/-- The text in ASCII as far as it can be, without the white space around it. -/
def plainNumeral (text : List Char) : List Char :=
  let start := (text.map plainCharacter).dropWhile isNumeralSpace
  (start.reverse.dropWhile isNumeralSpace).reverse

/-! Integers. -/

inductive Base where
  | two
  | eight
  | ten
  | sixteen
  deriving DecidableEq, Repr

namespace Base

def size : Base → Nat
  | two => 2
  | eight => 8
  | ten => 10
  | sixteen => 16

def mark? : Base → Option Char
  | two => some 'b'
  | eight => some 'o'
  | ten => none
  | sixteen => some 'x'

def digit? (base : Base) (c : Char) : Option Nat :=
  let letter := c.toLower
  let digit? := if c.isDigit then some (c.toNat - '0'.toNat)
    else if 'a' ≤ letter && letter ≤ 'f' then some (letter.toNat - 'a'.toNat + 10)
    else none
  digit?.filter (· < base.size)

def value? (base : Base) (digits : List Char) : Option Nat :=
  if digits.isEmpty then none
  else digits.foldl (fun sum c => sum.bind fun n => (base.digit? c).map (base.size * n + ·)) (some 0)

def withoutMark (base : Base) (text : List Char) : List Char :=
  match text with
  | '0' :: letter :: rest => if some letter.toLower = base.mark? then rest else text
  | _ => text

/-- A numeral in a base. Only to the base of ten is there a limit on the digits. -/
def integer? (base : Base) (text : List Char) : Option Int :=
  let plain := plainNumeral text
  let digits := base.withoutMark (dropSign plain)
  if base = ten && digitLimit < digits.length then none
  else (base.value? digits).map fun n => if isNegative plain then -(n : Int) else (n : Int)

end Base

/-- The value of parts to the base of sixty, the greatest first. -/
def sixtieths (parts : List Int) : Int := parts.foldl (fun sum part => sum * 60 + part) 0

/-- The integer without its sign. A zero in front makes it octal, also with a letter after it that names
the base. -/
def unsignedInt? (text : List Char) : Option Int :=
  match text with
  | ['0'] => some 0
  | '0' :: 'b' :: rest => Base.two.integer? rest
  | '0' :: 'x' :: rest => Base.sixteen.integer? rest
  | '0' :: _ => Base.eight.integer? text
  | _ =>
    if text.contains ':' then ((Text.pieces ':' text).mapM Base.ten.integer?).map sixtieths
    else Base.ten.integer? text

def intValue (text : List Char) : Except Fault Int :=
  let plain := withoutUnderscores text
  if (dropSign plain).isEmpty then .error .noNumber
  else match unsignedInt? (dropSign plain) with
    | some n => .ok (if isNegative plain then -n else n)
    | none => .error .noValue

/-! Floating-point numbers. -/

/-- The number that an unsigned decimal is nearest to. -/
def decimal? (negative : Bool) (text : List Char) : Option Binary64 :=
  let whole := text.takeWhile Char.isDigit
  let afterWhole := text.dropWhile Char.isDigit
  let hasPoint := afterWhole.head? = some '.'
  let fraction := if hasPoint then (afterWhole.drop 1).takeWhile Char.isDigit else []
  let rest := if hasPoint then (afterWhole.drop 1).dropWhile Char.isDigit else afterWhole
  let number (exponent : Int) : Binary64 :=
    .ofDecimal negative (value (whole ++ fraction)) (exponent - fraction.length)
  if (whole ++ fraction).isEmpty then none
  else match rest with
    | [] => some (number 0)
    | 'e' :: power =>
      let digits := dropSign power
      if isNumeral digits then
        some (number (if isNegative power then -(value digits : Int) else (value digits : Int)))
      else none
    | _ => none

/-- A decimal with a sign, or a word for what is not finite, in small letters. -/
def float? (text : List Char) : Option Binary64 :=
  let plain := plainNumeral text
  let negative := isNegative plain
  match String.ofList (dropSign plain) with
  | "inf" | "infinity" => some (.infinite negative)
  | "nan" => some .nan
  | _ => decimal? negative (dropSign plain)

/-- The sum of parts to the base of sixty, the least first. Each product and each sum is rounded.
A power of sixty that is out of the range of the numbers is an error. -/
def sixtiethsFloat : Nat → Binary64 → List Binary64 → Except Fault Binary64
  | _, sum, [] => .ok sum
  | place, sum, part :: rest =>
    match Binary64.ofRatio false (Nat.pow 60 place) 1 with
    | .finite negative significand exponent =>
      sixtiethsFloat (place + 1) (sum.add (part.mul (.finite negative significand exponent))) rest
    | _ => .error .outOfRange

def unsignedFloat (text : List Char) : Except Fault Binary64 :=
  if text == ".inf".toList then .ok (.infinite false)
  else if text == ".nan".toList then .ok .nan
  else if text.contains ':' then
    match (Text.pieces ':' text).mapM float? with
    | some parts => sixtiethsFloat 0 (.finite false 0 Binary64.leastExponent) parts.reverse
    | none => .error .noValue
  else match float? text with
    | some x => .ok x
    | none => .error .noValue

def floatValue (text : List Char) : Except Fault Binary64 :=
  let plain := (withoutUnderscores text).map Char.toLower
  if plain.isEmpty then .error .noNumber
  else (unsignedFloat (dropSign plain)).map fun x => if isNegative plain then x.neg else x

end TimeGate.Yaml
