import TimeGate.Text.Pieces

/-! Paths, and what they lead to. A path is kept without empty and `.` steps; a step `..` is kept and
only taken when the path is followed. A file holds a text, or bytes that are none. -/

set_option autoImplicit false

namespace TimeGate

structure Path where
  /-- What stands before the first step: nothing, or the slashes of an absolute path. -/
  root : String
  steps : List String
  deriving DecidableEq, Repr

namespace Path

/-- The root that a text begins with. One slash makes a path absolute; exactly two are told apart from
one. -/
def rootOf (text : List Char) : String :=
  match (text.takeWhile (· == '/')).length with
  | 0 => ""
  | 2 => "//"
  | _ => "/"

def ofText (text : String) : Path :=
  let steps := (Text.pieces '/' text.toList).filter fun step => !step.isEmpty && step != ['.']
  ⟨rootOf text.toList, steps.map String.ofList⟩

def text (path : Path) : String :=
  if path.root.isEmpty && path.steps.isEmpty then "."
  else path.root ++ String.intercalate "/" path.steps

def child (path : Path) (step : String) : Path := { path with steps := path.steps ++ [step] }

end Path

inductive Content where
  | text (text : String)
  | garbled
  deriving DecidableEq, Repr

/-- What a path leads to. One that is too long leads nowhere, and nothing can be told of it. -/
inductive Found where
  | absent
  | unreachable
  | folder
  | file (content : Content)
  deriving DecidableEq, Repr

namespace Text

/-- Reads every kind of line end as a line feed. -/
def unifyLines : List Char → List Char
  | [] => []
  | '\r' :: '\n' :: rest => '\n' :: unifyLines rest
  | '\r' :: rest => '\n' :: unifyLines rest
  | c :: rest => c :: unifyLines rest

end Text

end TimeGate
