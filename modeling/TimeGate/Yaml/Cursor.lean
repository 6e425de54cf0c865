/-! The text of a document that is still to be read, with the place it starts at. The null
character marks the end; a document holds none. Line ends are unified before a document is read. -/

set_option autoImplicit false

namespace TimeGate.Yaml

inductive Fault where
  /-- The text breaks the rules of the format, or a tag, an anchor or a key does not fit. -/
  | malformed
  /-- A number, a date or a character is spelled right and has no value. -/
  | noValue
  /-- A number is too large to be formed. -/
  | outOfRange
  /-- A number is demanded and nothing is written. -/
  | noNumber
  /-- A truth value is demanded and another word is written. -/
  | noTruthWord
  /-- A date is demanded and something else is written. -/
  | noDate
  /-- A date is demanded of a mapping. -/
  | dateOfMapping
  /-- Collections nest too deep, or without end. -/
  | tooDeep
  deriving DecidableEq, Repr

structure Cursor where
  rest : List Char
  index : Nat
  line : Nat
  column : Nat
  deriving DecidableEq, Repr

def endMark : Char := '\x00'

def byteOrderMark : Char := '\ufeff'

def isBreak (c : Char) : Bool := c == '\n' || c == '\x85' || c == '\u2028' || c == '\u2029'

def isBreakOrEnd (c : Char) : Bool := c == endMark || isBreak c

/-- The end, a blank or a line break. -/
def isGap (c : Char) : Bool := isBreakOrEnd c || c == ' ' || c == '\t'

/-- Letters, digits, dash and underscore: the characters of an anchor, a directive or a handle. -/
def isNameCharacter (c : Char) : Bool := c.isAlphanum || c == '-' || c == '_'

namespace Cursor

def start (text : List Char) : Cursor := ⟨text, 0, 0, 0⟩

def peek (cursor : Cursor) (ahead : Nat) : Char := (cursor.rest.drop ahead).headD endMark

def here (cursor : Cursor) : Char := cursor.rest.headD endMark

/-- Moves past one character. A byte-order mark takes no column. -/
def step (cursor : Cursor) : Cursor :=
  match cursor.rest with
  | [] => cursor
  | c :: rest =>
    if isBreak c then ⟨rest, cursor.index + 1, cursor.line + 1, 0⟩
    else if c = byteOrderMark then ⟨rest, cursor.index + 1, cursor.line, cursor.column⟩
    else ⟨rest, cursor.index + 1, cursor.line, cursor.column + 1⟩

def advance : Nat → Cursor → Cursor
  | 0, cursor => cursor
  | count + 1, cursor => advance count cursor.step

def run (cursor : Cursor) (inRun : Char → Bool) : List Char × Cursor :=
  let taken := cursor.rest.takeWhile inRun
  (taken, cursor.advance taken.length)

def skip (cursor : Cursor) (inRun : Char → Bool) : Cursor := (cursor.run inRun).2

def skipSpaces (cursor : Cursor) : Cursor := cursor.skip (· == ' ')

def skipLine (cursor : Cursor) : Cursor := cursor.skip fun c => !isBreak c

/-- A line break, as it counts in a scalar. The next-line character counts as a plain line end. -/
def lineBreak? (cursor : Cursor) : Option (Char × Cursor) :=
  if cursor.rest.isEmpty || !isBreak cursor.here then none
  else some (if cursor.here == '\x85' then '\n' else cursor.here, cursor.step)

/-- Three dashes or three points at the start of a line, followed by a gap. -/
def atSeparator (cursor : Cursor) : Bool :=
  let front := cursor.rest.take 3
  (front == ['-', '-', '-'] || front == ['.', '.', '.']) && isGap (cursor.peek 3)

/-- Spaces, then a comment if there is one, then the end of the line. -/
def skipRestOfLine? (cursor : Cursor) : Option Cursor :=
  let cursor := cursor.skipSpaces
  let cursor := if cursor.here == '#' then cursor.skipLine else cursor
  match cursor.lineBreak? with
  | some (_, next) => some next
  | none => if cursor.rest.isEmpty then some cursor else none

end Cursor

end TimeGate.Yaml
