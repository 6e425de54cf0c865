/-! Text as code points. Beside characters it may hold halves of surrogate pairs, which stand for no
character; such text is no `String`. -/

set_option autoImplicit false

namespace TimeGate.Text

abbrev CodePoints := List Nat

namespace CodePoints

def ofChars (text : List Char) : CodePoints := text.map Char.toNat

/-- The character of a code point, if it has one. -/
def char? (point : Nat) : Option Char := if point.isValidChar then some (Char.ofNat point) else none

/-- The text, if every code point is a character. -/
def chars? (points : CodePoints) : Option (List Char) := points.mapM char?

/-- The text with a replacement character for what is no character. Nothing that is read out of a
text depends on the replacement character, so it is read as the code point would be. -/
def marked (points : CodePoints) : List Char := points.map fun point => (char? point).getD '\ufffd'

end CodePoints

end TimeGate.Text
