/-! The pieces of a text between separators. There is always one piece more than there are
separators, and joining the pieces with the separator restores the text. -/

set_option autoImplicit false

namespace TimeGate.Text

/-- The pieces between occurrences of `separator`, empty ones included. -/
def pieces (separator : Char) : List Char → List (List Char)
  | [] => [[]]
  | c :: rest =>
    if c = separator then [] :: pieces separator rest
    else match pieces separator rest with
      | [] => [[c]]
      | piece :: others => (c :: piece) :: others

/-- The texts in order with `separator` between neighbours. -/
def joined (separator : List Char) : List (List Char) → List Char
  | [] => []
  | [text] => text
  | text :: rest => text ++ separator ++ joined separator rest

end TimeGate.Text
