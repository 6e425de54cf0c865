import TimeGate.Yaml.Token

/-! The stream of the tokens of a text. It is read no further than asked, so that a fault is met
only when what stands before it has been taken in. A simple key is recognised only at its colon; its
key token is then put in before it. -/

set_option autoImplicit false

namespace TimeGate.Yaml

/-- A place where a simple key may have started, with the number of the token there. A required key
is one at the indentation of its block. -/
structure KeyPlace where
  token : Nat
  required : Bool
  index : Nat
  line : Nat
  column : Nat
  deriving DecidableEq, Repr

/-- A simple key spans at most one line and 1024 characters. -/
def keyReach : Nat := 1024

structure TokenStream where
  cursor : Cursor
  /-- How many tokens have been taken off. -/
  taken : Nat
  /-- The tokens that are read and not yet taken off. -/
  pending : List Token
  isFinished : Bool
  flowLevel : Nat
  indent : Int
  indents : List Int
  keyAllowed : Bool
  keys : List (Nat × KeyPlace)
  /-- More rounds than any loop over the text takes. -/
  bound : Nat

namespace TokenStream

/-- The stream of a text. A byte-order mark at its start is passed over. -/
def ofText (text : List Char) : TokenStream :=
  let start := Cursor.start text
  { cursor := if start.here == byteOrderMark then start.step else start
    taken := 0
    pending := []
    isFinished := false
    flowLevel := 0
    indent := -1
    indents := []
    keyAllowed := true
    keys := []
    bound := text.length + 2 }

def count (stream : TokenStream) : Nat := stream.taken + stream.pending.length

def emit (stream : TokenStream) (token : Token) : TokenStream :=
  { stream with pending := stream.pending ++ [token] }

def inFlow (stream : TokenStream) : Bool := stream.flowLevel != 0

/-- Drops key places that can no longer become keys; a required one must not be dropped. -/
def dropStale (stream : TokenStream) : Except Fault TokenStream :=
  let isStale (place : KeyPlace) :=
    place.line != stream.cursor.line || keyReach < stream.cursor.index - place.index
  if stream.keys.any fun entry => isStale entry.2 && entry.2.required then .error .malformed
  else .ok { stream with keys := stream.keys.filter fun entry => !isStale entry.2 }

def keyHere? (stream : TokenStream) : Option KeyPlace :=
  (stream.keys.find? fun entry => entry.1 == stream.flowLevel).map Prod.snd

def withoutKeyHere (stream : TokenStream) : TokenStream :=
  { stream with keys := stream.keys.filter fun entry => entry.1 != stream.flowLevel }

def dropKeyHere (stream : TokenStream) : Except Fault TokenStream :=
  match stream.keyHere? with
  | some place => if place.required then .error .malformed else .ok stream.withoutKeyHere
  | none => .ok stream

def noteKeyHere (stream : TokenStream) : Except Fault TokenStream :=
  if stream.keyAllowed then do
    let cursor := stream.cursor
    let required := !stream.inFlow && stream.indent == (cursor.column : Int)
    let place : KeyPlace := ⟨stream.count, required, cursor.index, cursor.line, cursor.column⟩
    let stream ← stream.dropKeyHere
    return { stream with keys := (stream.flowLevel, place) :: stream.keys }
  else .ok stream

/-- Closes block collections that are indented deeper than `column`. -/
def closeBlocks (column : Int) : Nat → TokenStream → TokenStream
  | 0, stream => stream
  | bound + 1, stream =>
    if column < stream.indent then
      closeBlocks column bound { stream.emit .blockEnd with
        indent := stream.indents.headD (-1)
        indents := stream.indents.drop 1 }
    else stream

def unwind (stream : TokenStream) (column : Int) : TokenStream :=
  if stream.inFlow then stream else closeBlocks column (stream.indents.length + 1) stream

/-- Whether a block collection starts here, and the stream inside it. -/
def openBlock (stream : TokenStream) (column : Int) : Bool × TokenStream :=
  if stream.indent < column then
    (true, { stream with indent := column, indents := stream.indent :: stream.indents })
  else (false, stream)

def openBlockWith (stream : TokenStream) (token : Token) : TokenStream :=
  match stream.openBlock stream.cursor.column with
  | (true, stream) => stream.emit token
  | (false, stream) => stream

def emitOver (stream : TokenStream) (length : Nat) (token : Token) : TokenStream :=
  { stream.emit token with cursor := stream.cursor.advance length }

def allowKey (stream : TokenStream) (allowed : Bool) : TokenStream := { stream with keyAllowed := allowed }

/-- Blanks, comments and line ends before a token. A line end outside of a flow collection lets a simple
key follow. -/
def skipToToken : Nat → TokenStream → TokenStream
  | 0, stream => stream
  | bound + 1, stream =>
    let cursor := stream.cursor.skipSpaces
    let cursor := if cursor.here == '#' then cursor.skipLine else cursor
    match cursor.lineBreak? with
    | none => { stream with cursor := cursor }
    | some (_, next) =>
      skipToToken bound { stream with cursor := next, keyAllowed := stream.keyAllowed || !stream.inFlow }

def finish (stream : TokenStream) : Except Fault TokenStream := do
  let stream ← (stream.unwind (-1)).dropKeyHere
  return { (stream.emit .streamEnd).allowKey false with keys := [], isFinished := true }

def directive (stream : TokenStream) : Except Fault TokenStream := do
  let stream ← (stream.unwind (-1)).dropKeyHere
  let (token, cursor) ← directiveToken stream.cursor.step
  return { (stream.emit token).allowKey false with cursor := cursor }

def separator (stream : TokenStream) (token : Token) : Except Fault TokenStream := do
  let stream ← (stream.unwind (-1)).dropKeyHere
  return (stream.emitOver 3 token).allowKey false

def flowStart (stream : TokenStream) (token : Token) : Except Fault TokenStream := do
  let stream ← stream.noteKeyHere
  return ({ stream with flowLevel := stream.flowLevel + 1 }.emitOver 1 token).allowKey true

def flowStop (stream : TokenStream) (token : Token) : Except Fault TokenStream := do
  let stream ← stream.dropKeyHere
  return ({ stream with flowLevel := stream.flowLevel - 1 }.emitOver 1 token).allowKey false

def flowEntry (stream : TokenStream) : Except Fault TokenStream := do
  let stream ← (stream.allowKey true).dropKeyHere
  return stream.emitOver 1 .flowEntry

def blockEntry (stream : TokenStream) : Except Fault TokenStream := do
  if !stream.inFlow && !stream.keyAllowed then throw .malformed
  let stream := if stream.inFlow then stream else stream.openBlockWith .blockSequenceStart
  let stream ← (stream.allowKey true).dropKeyHere
  return stream.emitOver 1 .blockEntry

def explicitKey (stream : TokenStream) : Except Fault TokenStream := do
  if !stream.inFlow && !stream.keyAllowed then throw .malformed
  let stream := if stream.inFlow then stream else stream.openBlockWith .blockMappingStart
  let stream ← (stream.allowKey (!stream.inFlow)).dropKeyHere
  return stream.emitOver 1 .key

/-- A colon. It makes a key of what stands at the noted key place, if there is one. -/
def keyValue (stream : TokenStream) : Except Fault TokenStream := do
  match stream.keyHere? with
  | some place =>
    let stream := stream.withoutKeyHere
    let (isFirst, stream) := if stream.inFlow then (false, stream) else stream.openBlock place.column
    let heads : List Token := if isFirst then [.blockMappingStart, .key] else [.key]
    let (before, after) := stream.pending.splitAt (place.token - stream.taken)
    return ({ stream with pending := before ++ heads ++ after }.allowKey false).emitOver 1 .value
  | none =>
    if !stream.inFlow && !stream.keyAllowed then throw .malformed
    let stream := if stream.inFlow then stream else stream.openBlockWith .blockMappingStart
    let stream ← (stream.allowKey (!stream.inFlow)).dropKeyHere
    return stream.emitOver 1 .value

def named (stream : TokenStream) (token : String → Token) : Except Fault TokenStream := do
  let stream ← stream.noteKeyHere
  let (name, cursor) ← anchorName stream.cursor.step
  return { (stream.emit (token name)).allowKey false with cursor := cursor }

def tagged (stream : TokenStream) : Except Fault TokenStream := do
  let stream ← stream.noteKeyHere
  let (token, cursor) ← tagToken stream.cursor
  return { (stream.emit token).allowKey false with cursor := cursor }

def blockScalar (stream : TokenStream) (fold : Bool) : Except Fault TokenStream := do
  let stream ← (stream.allowKey true).dropKeyHere
  let (text, cursor) ← blockBody fold stream.bound stream.indent stream.cursor.step
  return { stream.emit (.scalar (.ofChars text) false) with cursor := cursor }

def quotedScalar (stream : TokenStream) (double : Bool) : Except Fault TokenStream := do
  let stream ← stream.noteKeyHere
  let (text, cursor) ← quotedBody double stream.bound stream.cursor.step
  return { (stream.emit (.scalar text false)).allowKey false with cursor := cursor }

def plainScalar (stream : TokenStream) : Except Fault TokenStream := do
  let stream ← stream.noteKeyHere
  let (text, broken, cursor) :=
    plainBody stream.inFlow (stream.indent + 1) stream.bound [] false stream.cursor
  return { (stream.emit (.scalar (.ofChars text) true)).allowKey broken with cursor := cursor }

/-- A dash, a question mark or a colon may start a plain scalar when no gap follows. -/
def startsPlain (stream : TokenStream) : Bool :=
  let c := stream.cursor.here
  let next := stream.cursor.peek 1
  !(isGap c || "-?:,[]\x7b\x7d#&*!|>'\"%@\x60".toList.contains c) ||
    (!isGap next && (c == '-' || (!stream.inFlow && (c == '?' || c == ':'))))

/-- The next token and those that its place implies. -/
def next (stream : TokenStream) : Except Fault TokenStream := do
  let stream ← (skipToToken stream.bound stream).dropStale
  let stream := stream.unwind stream.cursor.column
  let cursor := stream.cursor
  let c := cursor.here
  let gapNext := isGap (cursor.peek 1)
  let atStart := cursor.column == 0
  if cursor.rest.isEmpty then stream.finish
  else if c == '%' && atStart then stream.directive
  else if c == '-' && atStart && cursor.atSeparator then stream.separator .documentStart
  else if c == '.' && atStart && cursor.atSeparator then stream.separator .documentEnd
  else if c == '[' then stream.flowStart .flowSequenceStart
  else if c == '\x7b' then stream.flowStart .flowMappingStart
  else if c == ']' then stream.flowStop .flowSequenceEnd
  else if c == '\x7d' then stream.flowStop .flowMappingEnd
  else if c == ',' then stream.flowEntry
  else if c == '-' && gapNext then stream.blockEntry
  else if c == '?' && (stream.inFlow || gapNext) then stream.explicitKey
  else if c == ':' && (stream.inFlow || gapNext) then stream.keyValue
  else if c == '*' then stream.named .reference
  else if c == '&' then stream.named .anchor
  else if c == '!' then stream.tagged
  else if c == '|' && !stream.inFlow then stream.blockScalar false
  else if c == '>' && !stream.inFlow then stream.blockScalar true
  else if c == '\'' then stream.quotedScalar false
  else if c == '"' then stream.quotedScalar true
  else if stream.startsPlain then stream.plainScalar
  else throw .malformed

/-- Whether the next token is still open: none is read, or a key token may yet come before it. -/
def isOpen (stream : TokenStream) : Bool :=
  stream.pending.isEmpty || stream.keys.any fun entry => entry.2.token == stream.taken

/-- Reads on until the next token is settled, and no further: what comes later may be faulty. -/
def settle : Nat → TokenStream → Except Fault TokenStream
  -- Not reached: every round reads a character or ends the stream.
  | 0, stream => .ok stream
  | bound + 1, stream =>
    if stream.isFinished then .ok stream
    else do
      let stream ← if stream.pending.isEmpty then pure stream else stream.dropStale
      if stream.isOpen then settle bound (← stream.next) else return stream

/-- The next token and the stream in which it is settled. At the end there is no other token. -/
def peek (stream : TokenStream) : Except Fault (Token × TokenStream) := do
  let stream ← stream.settle stream.bound
  return (stream.pending.headD .streamEnd, stream)

def drop (stream : TokenStream) : TokenStream :=
  { stream with pending := stream.pending.drop 1, taken := stream.taken + 1 }

end TokenStream

end TimeGate.Yaml
