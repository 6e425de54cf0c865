import TimeGate.Text.Base64
import TimeGate.Text.CodePoints
import TimeGate.Yaml.Kind

/-! What scalars stand for. The kind says how the text is read. -/

set_option autoImplicit false

namespace TimeGate.Yaml

def boolValue (text : List Char) : Except Fault Bool :=
  let word := String.ofList (text.map Char.toLower)
  if ["yes", "true", "on"].contains word then .ok true
  else if ["no", "false", "off"].contains word then .ok false
  else .error .noTruthWord

/-- The value of a text. One with a code point that is no character is kept as it is. -/
def textValue (points : Text.CodePoints) : Scalar :=
  match points.chars? with
  | some text => .text (.ofList text)
  | none => .foreign (.ragged points)

/-- The value of a date. A line end after it does not matter. -/
def timestampValue (text : List Char) : Except Fault Foreign :=
  match Stamp.read (Kind.line text) with
  | none => .error .noDate
  | some stamp =>
    match stamp.value? with
    | some found => .ok found
    | none => .error .noValue

/-- The bytes that a text encodes, which is written in ASCII. -/
def binaryValue (text : List Char) : Except Fault Foreign :=
  if text.all fun c => c.toNat < 0x80 then
    match Text.Base64.decode text with
    | some bytes => .ok (.bytes bytes)
    | none => .error .malformed
  else .error .malformed

def scalarValue (kind : Kind) (points : Text.CodePoints) : Except Fault Scalar :=
  let text := points.marked
  match kind with
  | .null => .ok .null
  | .bool => (boolValue text).map .bool
  | .int => (intValue text).map .int
  | .float => (floatValue text).map .float
  | .timestamp => (timestampValue text).map .foreign
  | .text => .ok (textValue points)
  | .binary => (binaryValue text).map .foreign
  | _ => .error .malformed

end TimeGate.Yaml
