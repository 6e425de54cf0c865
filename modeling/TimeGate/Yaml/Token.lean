import TimeGate.Decimal.Numeral
import TimeGate.Yaml.ScalarText

/-! The tokens of a document, and how those are read that take more than a character: tags, anchors
and directives. Indentation shows as start and end tokens of block collections. -/

set_option autoImplicit false

namespace TimeGate.Yaml

inductive Token where
  | versionDirective (major : Nat)
  | tagDirective (handle head : String)
  | otherDirective
  | documentStart
  | documentEnd
  | streamEnd
  | blockSequenceStart
  | blockMappingStart
  | blockEnd
  | flowSequenceStart
  | flowSequenceEnd
  | flowMappingStart
  | flowMappingEnd
  | key
  | value
  | blockEntry
  | flowEntry
  | reference (name : String)
  | anchor (name : String)
  | tag (handle : Option String) (suffix : String)
  | scalar (text : Text.CodePoints) (plain : Bool)
  deriving DecidableEq, Repr, Inhabited

/-! Tags and directives. -/

def isUriCharacter (c : Char) : Bool := c.isAlphanum || "-;/?:@&=+$,_.!~*'()[]%".toList.contains c

/-- Percent escapes come in bytes of UTF-8. -/
def uriBytes : List Char → Option (List UInt8)
  | [] => some []
  | '%' :: rest =>
    match rest with
    | high :: low :: rest => do
      let high ← hexValue? high
      let low ← hexValue? low
      let more ← uriBytes rest
      return UInt8.ofNat (16 * high + low) :: more
    | _ => none
  | c :: rest => do
    let more ← uriBytes rest
    return (String.singleton c).toUTF8.toList ++ more

def uri (cursor : Cursor) : Except Fault (String × Cursor) :=
  let (written, cursor) := cursor.run isUriCharacter
  if written.isEmpty then .error .malformed
  else match uriBytes written with
    | none => .error .malformed
    | some bytes =>
      match String.fromUTF8? ⟨bytes.toArray⟩ with
      | none => .error .malformed
      | some text => .ok (text, cursor)

/-- A handle: an exclamation mark alone, or a name between two. -/
def tagHandle (cursor : Cursor) : Except Fault (String × Cursor) :=
  if cursor.here != '!' then .error .malformed
  else
    let (name, next) := cursor.step.run isNameCharacter
    if next.here == '!' then .ok (.ofList ('!' :: (name ++ ['!'])), next.step)
    else if name.isEmpty && next.here == ' ' then .ok ("!", next)
    else .error .malformed

def tagToken (cursor : Cursor) : Except Fault (Token × Cursor) := do
  let (token, cursor) ←
    if cursor.peek 1 == '<' then do
      let (suffix, next) ← uri (cursor.advance 2)
      if next.here == '>' then pure (Token.tag none suffix, next.step) else throw .malformed
    else if isGap (cursor.peek 1) then pure (Token.tag none "!", cursor.step)
    else
      let word := (cursor.rest.drop 1).takeWhile fun c => !(c == ' ' || isBreak c)
      if word.contains '!' then do
        let (handle, next) ← tagHandle cursor
        let (suffix, next) ← uri next
        pure (Token.tag (some handle) suffix, next)
      else do
        let (suffix, next) ← uri cursor.step
        pure (Token.tag (some "!") suffix, next)
  if cursor.here == ' ' || isBreakOrEnd cursor.here then return (token, cursor) else throw .malformed

def anchorName (cursor : Cursor) : Except Fault (String × Cursor) :=
  let (name, next) := cursor.run isNameCharacter
  if name.isEmpty then .error .malformed
  else if isGap next.here || "?:,]\x7d%@\x60".toList.contains next.here then .ok (.ofList name, next)
  else .error .malformed

def directiveNumber (cursor : Cursor) : Except Fault (Nat × Cursor) :=
  let (digits, next) := cursor.run Char.isDigit
  if digits.isEmpty then .error .malformed
  else if Decimal.digitLimit < digits.length then .error .noValue
  else .ok (Decimal.value digits, next)

def directiveValue (name : List Char) (cursor : Cursor) : Except Fault (Token × Cursor) := do
  if name == "YAML".toList then
    let (major, next) ← directiveNumber cursor.skipSpaces
    if next.here != '.' then throw .malformed
    let (_, next) ← directiveNumber next.step
    if next.here == ' ' || isBreakOrEnd next.here then return (.versionDirective major, next)
    else throw .malformed
  else if name == "TAG".toList then
    let (handle, next) ← tagHandle cursor.skipSpaces
    if next.here != ' ' then throw .malformed
    let (head, next) ← uri next.skipSpaces
    if next.here == ' ' || isBreakOrEnd next.here then return (.tagDirective handle head, next)
    else throw .malformed
  else return (.otherDirective, cursor.skipLine)

/-- A directive, from after its percent sign to the end of its line. -/
def directiveToken (cursor : Cursor) : Except Fault (Token × Cursor) := do
  let (name, next) := cursor.run isNameCharacter
  if name.isEmpty then throw .malformed
  if !(next.here == ' ' || isBreakOrEnd next.here) then throw .malformed
  let (token, next) ← directiveValue name next
  match next.skipRestOfLine? with
  | some next => return (token, next)
  | none => throw .malformed

end TimeGate.Yaml
