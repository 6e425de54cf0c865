import TimeGate.Text.Printable

/-! Quoted text. A text stands between single quotes, or between double quotes when it holds single
ones and no double ones; the quote in use, the backslash and everything unprintable are escaped,
so a quoted text never breaks a line and two texts never share a quoted form. -/

set_option autoImplicit false

namespace TimeGate.Text

/-- The low `count` hexadecimal digits of a number, in lower case. -/
def hexDigits : Nat → Nat → List Char
  | 0, _ => []
  | count + 1, n => hexDigits count (n / 16) ++ [Nat.digitChar (n % 16)]

/-- An escape with two, four or eight digits, the first that fit. -/
def hexEscape (n : Nat) : List Char :=
  if n < 0x100 then '\\' :: 'x' :: hexDigits 2 n
  else if n < 0x10000 then '\\' :: 'u' :: hexDigits 4 n
  else '\\' :: 'U' :: hexDigits 8 n

def quoteChar (quote c : Char) : List Char :=
  if c = quote || c = '\\' then ['\\', c]
  else if c = '\t' then ['\\', 't']
  else if c = '\n' then ['\\', 'n']
  else if c = '\r' then ['\\', 'r']
  else if isPrintable c then [c]
  else hexEscape c.toNat

/-- The quote to put around a text: a double one only when that saves escaping single ones. -/
def quoteFor (text : List Char) : Char :=
  if text.contains '\'' && !text.contains '"' then '"' else '\''

def quoteChars (text : List Char) : List Char :=
  let quote := quoteFor text
  quote :: (text.flatMap (quoteChar quote) ++ [quote])

def quoted (text : String) : String := String.ofList (quoteChars text.toList)

end TimeGate.Text
