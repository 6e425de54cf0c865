/-! Decimal numerals: non-empty runs of the digits 0 to 9, read at any length up to a limit and
written without superfluous zeros. -/

set_option autoImplicit false

namespace TimeGate.Decimal

/-- The longest numeral that is read; leading zeros count. -/
def digitLimit : Nat := 4300

def isNumeral (text : List Char) : Bool := !text.isEmpty && text.all Char.isDigit

/-- The number a numeral stands for. -/
def value (numeral : List Char) : Nat := Nat.ofDigitChars 10 numeral 0

def digits (n : Nat) : List Char := Nat.toDigits 10 n

def signedDigits : Int → List Char
  | .ofNat n => digits n
  | .negSucc n => '-' :: digits (n + 1)

/-- The digits of a number, filled with zeros on the left up to `width`. -/
def padded (width n : Nat) : List Char :=
  List.replicate (width - (digits n).length) '0' ++ digits n

end TimeGate.Decimal
