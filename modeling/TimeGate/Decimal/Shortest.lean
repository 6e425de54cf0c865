import TimeGate.Decimal.Binary64
import TimeGate.Decimal.Numeral

/-! The shortest decimal text of a floating-point number. Of the decimals that read back as the
number, one with the fewest digits is written, and of those the nearest to it. -/

set_option autoImplicit false

namespace TimeGate.Decimal

/-- `significand * 10 ^ exponent`. -/
structure Scientific where
  significand : Nat
  exponent : Int
  deriving DecidableEq, Repr

/-- The ratio divided by `10 ^ exponent`, as a ratio of integers. -/
def onGrid (size : Nat × Nat) (exponent : Int) : Nat × Nat :=
  match exponent with
  | .ofNat e => (size.1, size.2 * Nat.pow 10 e)
  | .negSucc e => (size.1 * Nat.pow 10 (e + 1), size.2)

/-- The neighbours of the number on the grid of `10 ^ exponent`, kept if they read back; the nearer of two
is preferred, and of two equally near ones the even one. -/
def hitOnGrid? (number : Binary64) (size : Nat × Nat) (exponent : Int) : Option Nat :=
  let point := onGrid size exponent
  let below := point.1 / point.2
  let twice := 2 * (point.1 % point.2)
  let nearer := if twice < point.2 then below
    else if point.2 < twice then below + 1
    else if below % 2 = 0 then below else below + 1
  let farther := if nearer = below then below + 1 else below
  if Binary64.ofDecimal false nearer exponent = number then some nearer
  else if Binary64.ofDecimal false farther exponent = number then some farther
  else none

/-- The greatest exponent of ten at which the number is not below one unit. -/
def leadingExponent (size : Nat × Nat) : Int :=
  let guess : Int := ((digits size.1).length : Int) - ((digits size.2).length : Int)
  let trial := onGrid size guess
  if trial.1 < trial.2 then guess - 1 else guess

/-- The first hit on ever finer grids, one digit more each time. -/
def shortestFrom (number : Binary64) (size : Nat × Nat) (leading : Int) : Nat → Nat → Scientific
  -- Seventeen digits always suffice, so that the last grid is hit.
  | 0, count =>
    let point := onGrid size (leading - (count : Int))
    ⟨point.1 / point.2, leading - (count : Int)⟩
  | tries + 1, count =>
    match hitOnGrid? number size (leading - (count : Int)) with
    | some significand => ⟨significand, leading - (count : Int)⟩
    | none => shortestFrom number size leading tries (count + 1)

def shortest (significand : Nat) (exponent : Int) : Scientific :=
  let size := Binary64.ratio significand exponent
  shortestFrom (.finite false significand exponent) size (leadingExponent size) 17 0

/-- Positional from 0.0001 to below ten to the sixteenth, always with a digit after the point; otherwise
one digit before the point and an exponent of at least two digits. -/
def Scientific.text (s : Scientific) : List Char :=
  let ds := (digits s.significand).reverse.dropWhile (· == '0') |>.reverse
  let point : Int := ((digits s.significand).length : Int) + s.exponent
  if -4 < point && point ≤ 16 then
    if point ≤ 0 then ['0', '.'] ++ List.replicate point.natAbs '0' ++ ds
    else if point.toNat < ds.length then ds.take point.toNat ++ '.' :: ds.drop point.toNat
    else ds ++ List.replicate (point.toNat - ds.length) '0' ++ ['.', '0']
  else
    let power := point - 1
    let mantissa := match ds with
      | [] => ['0']
      | [d] => [d]
      | d :: rest => d :: '.' :: rest
    mantissa ++ ['e', if power < 0 then '-' else '+'] ++ padded 2 power.natAbs

def Binary64.text : Binary64 → List Char
  | .nan => ['n', 'a', 'n']
  | .infinite negative => (if negative then ['-'] else []) ++ ['i', 'n', 'f']
  | .finite negative significand exponent =>
    (if negative then ['-'] else []) ++
      if significand = 0 then ['0', '.', '0'] else (shortest significand exponent).text

end TimeGate.Decimal
