/-! Letter case as far as plain Latin names can tell. A text is compared with a name of plain Latin
letters after mapping its case, so a letter matters only if its mapped form is plain Latin; every
other letter is kept, and then matches no such name in either form. -/

set_option autoImplicit false

namespace TimeGate.Text

/-- The lower form of a character. Beyond the plain letters only the kelvin sign has a plain lower form. -/
def lowerChar (c : Char) : Char :=
  if c.toNat = 0x212A then 'k' else c.toLower

def lower (text : List Char) : List Char := text.map lowerChar

/-- The upper form of a character. The dotless i, the long s, the sharp s and seven ligatures have plain
upper forms. -/
def upperChar (c : Char) : List Char :=
  match c.toNat with
  | 0xDF => ['S', 'S']
  | 0x131 => ['I']
  | 0x17F => ['S']
  | 0xFB00 => ['F', 'F']
  | 0xFB01 => ['F', 'I']
  | 0xFB02 => ['F', 'L']
  | 0xFB03 => ['F', 'F', 'I']
  | 0xFB04 => ['F', 'F', 'L']
  | 0xFB05 | 0xFB06 => ['S', 'T']
  | _ => [c.toUpper]

def upper (text : List Char) : List Char := text.flatMap upperChar

end TimeGate.Text
