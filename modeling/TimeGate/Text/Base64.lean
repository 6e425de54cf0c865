/-! Bytes written with sixty-four characters: four characters hold three bytes. A last group of two or
three characters is filled up with equals signs; all other characters are passed over. -/

set_option autoImplicit false

namespace TimeGate.Text.Base64

def sextet? (c : Char) : Option Nat :=
  if 'A' ≤ c && c ≤ 'Z' then some (c.toNat - 'A'.toNat)
  else if 'a' ≤ c && c ≤ 'z' then some (c.toNat - 'a'.toNat + 26)
  else if '0' ≤ c && c ≤ '9' then some (c.toNat - '0'.toNat + 52)
  else if c = '+' then some 62
  else if c = '/' then some 63
  else none

/-- How many characters of the group are read, the bits that no byte has taken yet, and the equals
signs since the last character of the group. -/
structure Group where
  count : Nat
  bits : Nat
  fill : Nat
  deriving DecidableEq, Repr

def Group.fresh : Group := ⟨0, 0, 0⟩

/-- The byte that the next six bits complete, if they complete one, and the group after them. -/
def Group.take (group : Group) (sextet : Nat) : Option UInt8 × Group :=
  match group.count with
  | 0 => (none, ⟨1, sextet, 0⟩)
  | 1 => (some (.ofNat (group.bits * 4 + sextet / 16)), ⟨2, sextet % 16, 0⟩)
  | 2 => (some (.ofNat (group.bits * 16 + sextet / 4)), ⟨3, sextet % 4, 0⟩)
  | _ => (some (.ofNat (group.bits * 64 + sextet)), .fresh)

/-- The bytes of the text from inside a group. A group that is filled up ends the text, whatever follows;
the end of the text inside of a group is an error. -/
def decodeFrom (group : Group) : List Char → Option (List UInt8)
  | [] => if group.count = 0 then some [] else none
  | c :: rest =>
    if c = '=' then
      if group.count < 2 then decodeFrom group rest
      else if 4 ≤ group.count + group.fill + 1 then some []
      else decodeFrom { group with fill := group.fill + 1 } rest
    else match sextet? c with
      | none => decodeFrom group rest
      | some sextet =>
        let (byte, group) := group.take sextet
        match byte with
        | some byte => (decodeFrom group rest).map (byte :: ·)
        | none => decodeFrom group rest

def decode (text : List Char) : Option (List UInt8) := decodeFrom .fresh text

end TimeGate.Text.Base64
