import TimeGate.Text.CodePoints
import TimeGate.Yaml.Cursor

/-! The text of scalars in each of their styles: plain, quoted and block. Line breaks inside a plain
or a quoted scalar are folded: a single one becomes a space, of several the first is dropped. Only
the escapes of a quoted scalar can name what is no character, so quoted text is made of code points.
The loops run on a bound that exceeds the length of the rest. -/

set_option autoImplicit false

namespace TimeGate.Yaml

/-- What a single break or a run of blank lines comes to. -/
def folded (first : Char) (more : List Char) : List Char :=
  if first != '\n' then first :: more
  else if more.isEmpty then [' ']
  else more

/-! Quoted scalars. -/

def plainEscape? : Char → Option Char
  | '0' => some '\x00'
  | 'a' => some '\x07'
  | 'b' => some '\x08'
  | 't' | '\t' => some '\t'
  | 'n' => some '\n'
  | 'v' => some '\x0b'
  | 'f' => some '\x0c'
  | 'r' => some '\r'
  | 'e' => some '\x1b'
  | ' ' => some ' '
  | '"' => some '"'
  | '\\' => some '\\'
  | '/' => some '/'
  | 'N' => some '\x85'
  | '_' => some '\xa0'
  | 'L' => some '\u2028'
  | 'P' => some '\u2029'
  | _ => none

def hexEscape? : Char → Option Nat
  | 'x' => some 2
  | 'u' => some 4
  | 'U' => some 8
  | _ => none

def hexValue? (c : Char) : Option Nat :=
  if c.isDigit then some (c.toNat - '0'.toNat)
  else if 'a' ≤ c && c ≤ 'f' then some (c.toNat - 'a'.toNat + 10)
  else if 'A' ≤ c && c ≤ 'F' then some (c.toNat - 'A'.toNat + 10)
  else none

def hexNumber? (digits : List Char) : Option Nat :=
  digits.foldl (fun sum c => sum.bind fun n => (hexValue? c).map (16 * n + ·)) (some 0)

/-- Blank lines inside a quoted scalar; a document separator there is an error. -/
def quotedBreaks : Nat → Cursor → Except Fault (List Char × Cursor)
  | 0, _ => .error .malformed
  | bound + 1, cursor =>
    if cursor.atSeparator then .error .malformed
    else
      let cursor := cursor.skip fun c => c == ' ' || c == '\t'
      match cursor.lineBreak? with
      | none => .ok ([], cursor)
      | some (found, next) => do
        let (more, next) ← quotedBreaks bound next
        return (found :: more, next)

/-- Blanks inside a quoted scalar: kept on a line, folded around a line break. -/
def quotedSpaces (bound : Nat) (cursor : Cursor) : Except Fault (List Char × Cursor) :=
  let (spaces, cursor) := cursor.run fun c => c == ' ' || c == '\t'
  if cursor.rest.isEmpty then .error .malformed
  else match cursor.lineBreak? with
    | none => .ok (spaces, cursor)
    | some (found, next) => do
      let (more, next) ← quotedBreaks bound next
      return (folded found more, next)

/-- The code point that an escape names. A number beyond 31 bits is not even compared. -/
def escapedPoint (code : Nat) : Except Fault Nat :=
  if 0x7FFFFFFF < code then .error .outOfRange
  else if 0x10FFFF < code then .error .noValue
  else .ok code

def escaped (bound : Nat) (cursor : Cursor) : Except Fault (Text.CodePoints × Cursor) :=
  let c := cursor.here
  if cursor.rest.isEmpty then .error .malformed
  else match plainEscape? c, hexEscape? c with
    | some plain, _ => .ok ([plain.toNat], cursor.step)
    | none, some count =>
      let digits := cursor.step.rest.take count
      match hexNumber? digits with
      | none => .error .malformed
      | some code =>
        if digits.length < count then .error .malformed
        else (escapedPoint code).map fun point => ([point], cursor.advance (count + 1))
    | none, none =>
      match cursor.lineBreak? with
      | some (_, next) => (quotedBreaks bound next).map fun found => (.ofChars found.1, found.2)
      | none => .error .malformed

/-- A stretch of a quoted scalar without blanks. -/
def quotedStretch (double : Bool) : Nat → Cursor → Except Fault (Text.CodePoints × Cursor)
  | 0, _ => .error .malformed
  | bound + 1, cursor =>
    let (plain, cursor) := cursor.run fun c => !isGap c && c != '\'' && c != '"' && c != '\\'
    let c := cursor.here
    let continued (found : Text.CodePoints) (next : Cursor) : Except Fault (Text.CodePoints × Cursor) := do
      let (more, next) ← quotedStretch double bound next
      return (.ofChars plain ++ found ++ more, next)
    if cursor.rest.isEmpty then .ok (.ofChars plain, cursor)
    else if !double && c == '\'' && cursor.peek 1 == '\'' then continued [c.toNat] (cursor.advance 2)
    else if (double && c == '\'') || (!double && (c == '"' || c == '\\')) then
      continued [c.toNat] cursor.step
    else if double && c == '\\' then do
      let (found, next) ← escaped bound cursor.step
      continued found next
    else .ok (.ofChars plain, cursor)

/-- A quoted scalar from after its opening quote to after its closing one. -/
def quotedBody (double : Bool) : Nat → Cursor → Except Fault (Text.CodePoints × Cursor)
  | 0, _ => .error .malformed
  | bound + 1, cursor => do
    let (stretch, cursor) ← quotedStretch double bound cursor
    if !cursor.rest.isEmpty && cursor.here == (if double then '"' else '\'') then
      return (stretch, cursor.step)
    else
      let (spaces, cursor) ← quotedSpaces bound cursor
      let (more, cursor) ← quotedBody double bound cursor
      return (stretch ++ .ofChars spaces ++ more, cursor)

/-! Plain scalars. -/

def isFlowIndicator (c : Char) : Bool :=
  c == ',' || c == '[' || c == ']' || c == '\x7b' || c == '\x7d'

/-- How much of a plain scalar stands before the next blank, key mark or flow indicator. -/
def plainLength (inFlow : Bool) : List Char → Nat
  | [] => 0
  | c :: rest =>
    let next := rest.headD endMark
    if isGap c then 0
    else if c == ':' && (isGap next || (inFlow && isFlowIndicator next)) then 0
    else if inFlow && (isFlowIndicator c || c == '?') then 0
    else plainLength inFlow rest + 1

/-- Blank lines after a line of a plain scalar; nothing if a document separator comes. -/
def plainBreaks : Nat → Cursor → Option (List Char) × Cursor
  | 0, cursor => (none, cursor)
  | bound + 1, cursor =>
    let cursor := cursor.skipSpaces
    match cursor.lineBreak? with
    | none => (some [], cursor)
    | some (found, next) =>
      if next.atSeparator then (none, next)
      else
        let (more, next) := plainBreaks bound next
        (more.map (found :: ·), next)

/-- What stands between two stretches of a plain scalar. -/
structure PlainSpaces where
  text : List Char
  broken : Bool
  next : Cursor

def plainSpaces (bound : Nat) (cursor : Cursor) : PlainSpaces :=
  let (spaces, cursor) := cursor.run (· == ' ')
  match cursor.lineBreak? with
  | none => ⟨spaces, false, cursor⟩
  | some (found, next) =>
    if next.atSeparator then ⟨[], true, next⟩
    else match plainBreaks bound next with
      | (none, next) => ⟨[], true, next⟩
      | (some more, next) => ⟨folded found more, true, next⟩

/-- A plain scalar with the blanks before it; also whether a line break follows it. A line that is
indented less than `indent` does not belong to it. -/
def plainBody (inFlow : Bool) (indent : Int) : Nat → List Char → Bool → Cursor → List Char × Bool × Cursor
  | 0, _, broken, cursor => ([], broken, cursor)
  | bound + 1, spaces, broken, cursor =>
    let length := if cursor.here == '#' then 0 else plainLength inFlow cursor.rest
    if length = 0 then ([], broken, cursor)
    else
      let stretch := cursor.rest.take length
      let after := plainSpaces bound (cursor.advance length)
      if after.text.isEmpty || after.next.here == '#' ||
          (!inFlow && (after.next.column : Int) < indent) then
        (spaces ++ stretch, after.broken, after.next)
      else
        let (more, broken, next) := plainBody inFlow indent bound after.text after.broken after.next
        (spaces ++ stretch ++ more, broken, next)

/-! Block scalars. -/

/-- Blank lines before a line of a block scalar that is indented by `indent`. -/
def blockBreaks (indent : Nat) : Nat → Cursor → List Char × Cursor
  | 0, cursor => ([], cursor)
  | bound + 1, cursor =>
    let spaces := (cursor.rest.takeWhile (· == ' ')).length
    let cursor := cursor.advance (min spaces (indent - cursor.column))
    match cursor.lineBreak? with
    | none => ([], cursor)
    | some (found, next) =>
      let (more, next) := blockBreaks indent bound next
      (found :: more, next)

/-- Blank lines at the head of a block scalar, and the deepest column reached on the way. -/
def blockLead : Nat → Nat → Cursor → List Char × Nat × Cursor
  | 0, deepest, cursor => ([], deepest, cursor)
  | bound + 1, deepest, cursor =>
    let cursor := cursor.skipSpaces
    let deepest := max deepest cursor.column
    match cursor.lineBreak? with
    | none => ([], deepest, cursor)
    | some (found, next) =>
      let (more, deepest, next) := blockLead bound deepest next
      (found :: more, deepest, next)

/-- What happens to the line breaks at the end of a block scalar. -/
inductive Chomping where
  | strip
  | clip
  | keep
  deriving DecidableEq, Repr

/-- The lines of a block scalar from a line that belongs to it; the last break and the blank lines
after it come apart. A folded scalar joins two lines unless either starts with a blank. -/
def blockLines (fold : Bool) (indent : Nat) : Nat → Cursor → List Char × List Char × List Char × Cursor
  | 0, cursor => ([], [], [], cursor)
  | bound + 1, cursor =>
    let leads (c : Char) := c == ' ' || c == '\t'
    let plainStart := !leads cursor.here
    let (line, cursor) := cursor.run fun c => !isBreak c
    let (last, cursor) := match cursor.lineBreak? with
      | some (found, next) => ([found], next)
      | none => ([], cursor)
    let (breaks, cursor) := blockBreaks indent bound cursor
    if cursor.column = indent && !cursor.rest.isEmpty then
      let joint :=
        if fold && last == ['\n'] && plainStart && !leads cursor.here then
          if breaks.isEmpty then [' '] else []
        else last
      let (more, last, left, cursor) := blockLines fold indent bound cursor
      (line ++ joint ++ breaks ++ more, last, left, cursor)
    else (line, last, breaks, cursor)

/-- Chomping and indentation marks in either order. -/
def blockHeader (cursor : Cursor) : Except Fault (Chomping × Option Nat × Cursor) :=
  let chomping? (c : Char) : Option Chomping :=
    if c == '+' then some .keep else if c == '-' then some .strip else none
  let digit? (c : Char) : Option Nat := if c.isDigit then some (c.toNat - '0'.toNat) else none
  let found : Chomping × Option Nat × Cursor :=
    match chomping? cursor.here, digit? cursor.here with
    | some chomping, _ =>
      match digit? cursor.step.here with
      | some width => (chomping, some width, cursor.step.step)
      | none => (chomping, none, cursor.step)
    | none, some width =>
      match chomping? cursor.step.here with
      | some chomping => (chomping, some width, cursor.step.step)
      | none => (.clip, some width, cursor.step)
    | none, none => (.clip, none, cursor)
  if found.2.1 = some 0 then .error .malformed
  else if found.2.2.here == ' ' || isBreakOrEnd found.2.2.here then .ok found
  else .error .malformed

def blockBody (fold : Bool) (bound : Nat) (outer : Int) (cursor : Cursor) :
    Except Fault (List Char × Cursor) := do
  let (chomping, width, cursor) ← blockHeader cursor
  match cursor.skipRestOfLine? with
  | none => .error .malformed
  | some cursor =>
    let least := max 1 (outer + 1).toNat
    let (lead, indent, cursor) := match width with
      | none =>
        let (lead, deepest, cursor) := blockLead bound 0 cursor
        (lead, max least deepest, cursor)
      | some width =>
        let indent := least + width - 1
        let (lead, cursor) := blockBreaks indent bound cursor
        (lead, indent, cursor)
    let (body, last, left, cursor) :=
      if cursor.column = indent && !cursor.rest.isEmpty then
        let (body, last, left, cursor) := blockLines fold indent bound cursor
        (lead ++ body, last, left, cursor)
      else ([], [], lead, cursor)
    let tail := match chomping with
      | .strip => []
      | .clip => last
      | .keep => last ++ left
    return (body ++ tail, cursor)

end TimeGate.Yaml
