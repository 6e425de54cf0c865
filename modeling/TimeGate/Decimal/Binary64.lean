/-! Binary floating-point numbers of 64 bits, as exact data. Every finite number is a significand
below `2 ^ 53` times a power of two not below `2 ^ (-1074)`; a ratio is read as the nearest number,
a tie as the one with the even significand. -/

set_option autoImplicit false

namespace TimeGate.Decimal

inductive Binary64 where
  | finite (negative : Bool) (significand : Nat) (exponent : Int)
  | infinite (negative : Bool)
  | nan
  deriving DecidableEq, Repr, Inhabited

namespace Binary64

def leastExponent : Int := -1074

def greatestExponent : Int := 971

/-- The quotient rounded to the nearest integer, a tie to the even one. -/
def roundedQuotient (numerator denominator : Nat) : Nat :=
  let quotient := numerator / denominator
  let twice := 2 * (numerator % denominator)
  if twice < denominator then quotient
  else if denominator < twice then quotient + 1
  else if quotient % 2 = 0 then quotient else quotient + 1

/-- The ratio divided by `2 ^ exponent`, as a ratio of integers. -/
def scaled (numerator denominator : Nat) (exponent : Int) : Nat × Nat :=
  match exponent with
  | .ofNat e => (numerator, denominator * Nat.pow 2 e)
  | .negSucc e => (numerator * Nat.pow 2 (e + 1), denominator)

/-- The nearest number to `± numerator / denominator`. -/
def ofRatio (negative : Bool) (numerator denominator : Nat) : Binary64 :=
  if numerator = 0 || denominator = 0 then .finite negative 0 leastExponent
  else
    let guess : Int := (numerator.log2 : Int) - (denominator.log2 : Int) - 52
    let trial := scaled numerator denominator guess
    let exponent := max leastExponent (if trial.1 / trial.2 < Nat.pow 2 52 then guess - 1 else guess)
    let ratio := scaled numerator denominator exponent
    let significand := roundedQuotient ratio.1 ratio.2
    let carried := significand = Nat.pow 2 53
    let exponent := if carried then exponent + 1 else exponent
    if greatestExponent < exponent then .infinite negative
    else .finite negative (if carried then Nat.pow 2 52 else significand) exponent

/-- The nearest number to `± significand * 10 ^ exponent`. -/
def ofDecimal (negative : Bool) (significand : Nat) (exponent : Int) : Binary64 :=
  if significand = 0 then .finite negative 0 leastExponent
  else
    -- What is far out of range is cut off first, so that no huge power is formed.
    let magnitude : Int := (Nat.toDigits 10 significand).length + exponent
    if 400 < magnitude then .infinite negative
    else if magnitude < -400 then .finite negative 0 leastExponent
    else match exponent with
      | .ofNat e => ofRatio negative (significand * Nat.pow 10 e) 1
      | .negSucc e => ofRatio negative significand (Nat.pow 10 (e + 1))

/-- The size of a finite number as a ratio. -/
def ratio (significand : Nat) (exponent : Int) : Nat × Nat :=
  match exponent with
  | .ofNat e => (significand * Nat.pow 2 e, 1)
  | .negSucc e => (significand, Nat.pow 2 (e + 1))

/-- The integer `± significand * 2 ^ (exponent - least)`, for an exponent not below `least`. -/
def aligned (negative : Bool) (significand : Nat) (exponent least : Int) : Int :=
  let size : Int := significand * Nat.pow 2 (exponent - least).toNat
  if negative then -size else size

/-- The nearest number to `n * 2 ^ exponent`; zero gets the sign given for it. -/
def ofScaled (zeroNegative : Bool) (n exponent : Int) : Binary64 :=
  let size := ratio n.natAbs exponent
  if n = 0 then .finite zeroNegative 0 leastExponent else ofRatio (n < 0) size.1 size.2

def neg : Binary64 → Binary64
  | .finite negative significand exponent => .finite (!negative) significand exponent
  | .infinite negative => .infinite (!negative)
  | .nan => .nan

/-- The nearest number to the sum. A sum of zero is negative only if both numbers are. -/
def add : Binary64 → Binary64 → Binary64
  | .nan, _ | _, .nan => .nan
  | .infinite left, .infinite right => if left = right then .infinite left else .nan
  | .infinite negative, .finite .. | .finite .., .infinite negative => .infinite negative
  | .finite leftNegative left leftExponent, .finite rightNegative right rightExponent =>
    let least := min leftExponent rightExponent
    ofScaled (leftNegative && rightNegative)
      (aligned leftNegative left leftExponent least + aligned rightNegative right rightExponent least) least

/-- The nearest number to the product. Infinity times zero is not a number. -/
def mul : Binary64 → Binary64 → Binary64
  | .nan, _ | _, .nan => .nan
  | .infinite left, .infinite right => .infinite (left != right)
  | .infinite infiniteNegative, .finite negative significand _
  | .finite negative significand _, .infinite infiniteNegative =>
    if significand = 0 then .nan else .infinite (infiniteNegative != negative)
  | .finite leftNegative left leftExponent, .finite rightNegative right rightExponent =>
    let size := ratio (left * right) (leftExponent + rightExponent)
    ofRatio (leftNegative != rightNegative) size.1 size.2

def isZero : Binary64 → Bool
  | .finite _ significand _ => significand == 0
  | _ => false

/-- The integer a number equals, if it equals one. -/
def toInt? : Binary64 → Option Int
  | .finite negative significand exponent =>
    let size := ratio significand exponent
    if size.1 % size.2 = 0 then
      some (if negative then -((size.1 / size.2 : Nat) : Int) else ((size.1 / size.2 : Nat) : Int))
    else none
  | _ => none

end Binary64

end TimeGate.Decimal
