import TimeGate.Settings.Environment
import TimeGate.Text.WordCharacter
import TimeGate.Value

/-! References to variables inside loose data. A reference is a name in braces after a dollar sign.
It is replaced by the value of its variable, or kept if there is none; what is put in is not looked
at again, and keys are left alone. Texts are taken as code points, since not every text that a
document holds is of characters. -/

set_option autoImplicit false

namespace TimeGate.Interpolation

open TimeGate.Text (CodePoints)

/-- A text falls into references and the code points between them. -/
inductive Segment where
  | plain (point : Nat)
  | reference (name : List Char)
  deriving DecidableEq, Repr

namespace Segment

def points : Segment → CodePoints
  | .plain point => [point]
  | .reference name => CodePoints.ofChars ('$' :: '\x7b' :: (name ++ ['\x7d']))

end Segment

/-- The name of the reference at the start of a text, if one stands there. -/
def referenceAt? : CodePoints → Option (List Char)
  -- A dollar sign and an opening brace.
  | 0x24 :: 0x7B :: rest =>
    let chars := CodePoints.marked rest
    let name := chars.takeWhile Text.isWordCharacter
    if !name.isEmpty && (chars.dropWhile Text.isWordCharacter).head? = some '\x7d' then some name else none
  | _ => none

/-- The segments of a text, of which the first `skipped` code points belong to a reference already
taken. -/
def segmentsAfter : Nat → CodePoints → List Segment
  | _, [] => []
  | skipped + 1, _ :: rest => segmentsAfter skipped rest
  | 0, point :: rest =>
    match referenceAt? (point :: rest) with
    | some name => .reference name :: segmentsAfter (name.length + 2) rest
    | none => .plain point :: segmentsAfter 0 rest

def segments (text : CodePoints) : List Segment := segmentsAfter 0 text

variable (environment : Environment)

def resolveSegment (segment : Segment) : CodePoints :=
  match segment with
  | .plain point => [point]
  | .reference name =>
    match environment.get? (.ofList name) with
    | some value => CodePoints.ofChars value.toList
    | none => segment.points

def resolvePoints (text : CodePoints) : CodePoints :=
  (segments text).flatMap (resolveSegment environment)

/-- All code points are characters here, so none is marked. -/
def resolveText (text : String) : String :=
  .ofList (CodePoints.marked (resolvePoints environment (CodePoints.ofChars text.toList)))

def unsetInPoints (text : CodePoints) : List String :=
  (segments text).filterMap fun segment =>
    match segment with
    | .plain _ => none
    | .reference name => if environment.contains (.ofList name) then none else some (.ofList name)

def resolveLeaf : Scalar → Scalar
  | .text s => .text (resolveText environment s)
  | .foreign (.ragged points) => .foreign (.ragged (resolvePoints environment points))
  | leaf => leaf

def unsetInLeaf : Scalar → List String
  | .text s => unsetInPoints environment (CodePoints.ofChars s.toList)
  | .foreign (.ragged points) => unsetInPoints environment points
  | _ => []

mutual

/-- The value with the references in its texts resolved. -/
def resolve : Value → Value
  | .scalar leaf => .scalar (resolveLeaf environment leaf)
  | .list items => .list (resolveItems items)
  | .map entries => .map (resolveEntries entries)

def resolveItems : List Value → List Value
  | [] => []
  | item :: rest => resolve item :: resolveItems rest

def resolveEntries : List (Scalar × Value) → List (Scalar × Value)
  | [] => []
  | (key, value) :: rest => (key, resolve value) :: resolveEntries rest

end

mutual

/-- The names of the references that have no variable, one for each occurrence. -/
def unset : Value → List String
  | .scalar leaf => unsetInLeaf environment leaf
  | .list items => unsetInItems items
  | .map entries => unsetInEntries entries

def unsetInItems : List Value → List String
  | [] => []
  | item :: rest => unset item ++ unsetInItems rest

def unsetInEntries : List (Scalar × Value) → List String
  | [] => []
  | (_, value) :: rest => unset value ++ unsetInEntries rest

end

end TimeGate.Interpolation
