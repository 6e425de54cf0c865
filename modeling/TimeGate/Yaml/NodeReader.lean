import TimeGate.Yaml.Node
import TimeGate.Yaml.TokenStream

/-! Reading nodes from tokens. A collection takes its place in the graph before its parts are read, so
a reference inside of it may already lead to it. Reading recurses on a bound that no run of tokens
exhausts. -/

set_option autoImplicit false

namespace TimeGate.Yaml

/-- The tokens left, the tag handles declared, the anchors met, and the nodes read so far. -/
structure NodeReader where
  stream : TokenStream
  handles : List (String × String)
  anchors : List (String × NodeId)
  graph : Graph

abbrev Reading (α : Type) := StateT NodeReader (Except Fault) α

/-- A handle and what follows it, or a tag in full. -/
abbrev Tag := Option String × String

def depthLimit : Nat := 487

namespace Reading

def peek : Reading Token := do
  let reader ← get
  let (token, stream) ← reader.stream.peek
  set { reader with stream := stream }
  return token

def drop : Reading Unit := modify fun reader => { reader with stream := reader.stream.drop }

def atAny (tokens : List Token) : Reading Bool := return tokens.contains (← peek)

/-- Adds a node, under its anchor if it has one. -/
def add (anchor : Option String) (node : Node) : Reading NodeId :=
  modifyGet fun reader =>
    let (id, graph) := reader.graph.push node
    let anchors := match anchor with
      | some name => (name, id) :: reader.anchors
      | none => reader.anchors
    (id, { reader with graph := graph, anchors := anchors })

def addEmpty : Reading NodeId := add none .empty

def setForm (id : NodeId) (form : Form) : Reading Unit :=
  modify fun reader => { reader with graph := reader.graph.setForm id form }

def addSequence (anchor : Option String) (kind : Kind) (items : Reading (List NodeId)) :
    Reading NodeId := do
  let id ← add anchor ⟨kind, .sequence []⟩
  setForm id (.sequence (← items))
  return id

def addMapping (anchor : Option String) (kind : Kind) (entries : Reading (List (NodeId × NodeId))) :
    Reading NodeId := do
  let id ← add anchor ⟨kind, .mapping []⟩
  setForm id (.mapping (← entries))
  return id

def anchored? (name : String) : Reading (Option NodeId) := do
  return ((← get).anchors.find? fun entry => entry.1 == name).map Prod.snd

/-- Refuses an anchor that is taken. -/
def checkAnchor : Option String → Reading Unit
  | none => return
  | some name => do
    if (← anchored? name).isSome then throw .malformed

/-- Anchor and tag in either order, at most one of each. -/
def properties : Reading (Option String × Option Tag) := do
  match ← peek with
  | .anchor name =>
    drop
    match ← peek with
    | .tag handle suffix =>
      drop
      return (some name, some (handle, suffix))
    | _ => return (some name, none)
  | .tag handle suffix =>
    drop
    match ← peek with
    | .anchor name =>
      drop
      return (some name, some (handle, suffix))
    | _ => return (none, some (handle, suffix))
  | _ => return (none, none)

/-- The full tag, with its handle replaced. -/
def fullTag : Option Tag → Reading (Option String)
  | none => return none
  | some (none, suffix) => return some suffix
  | some (some handle, suffix) => do
    match (← get).handles.find? fun entry => entry.1 == handle with
    | some entry => return some (entry.2 ++ suffix)
    | none => throw .malformed

end Reading

/-- The tag that leaves the kind to the node. -/
def bareTag : String := "!"

/-- Untagged scalars are texts unless they are plain; then, and under the bare tag, their spelling
decides. -/
def scalarKind (tag : Option String) (plain : Bool) (text : Text.CodePoints) : Kind :=
  match tag with
  | some tag => if tag = bareTag then .ofSpelling text.marked else .ofTag tag
  | none => if plain then .ofSpelling text.marked else .text

def collectionKind (tag : Option String) (default : Kind) : Kind :=
  match tag with
  | some tag => if tag = bareTag then default else .ofTag tag
  | none => default

open Reading in
mutual

/-- One node. Block collections are read only where `block` allows them; `inMapping` also lets the
entries of a sequence stand at the indentation of the mapping around it. -/
def readNode (block inMapping : Bool) (depth : Nat) : Nat → Reading NodeId
  | 0 => throw .malformed
  | bound + 1 => do
    match ← peek with
    | .reference name =>
      drop
      match ← anchored? name with
      | some id => return id
      | none => throw .malformed
    | _ =>
      let (anchor, tag) ← properties
      let tag ← fullTag tag
      let _ ← peek
      checkAnchor anchor
      readContent block inMapping depth anchor tag bound
termination_by structural bound => bound

def readContent (block inMapping : Bool) (depth : Nat) (anchor tag : Option String) :
    Nat → Reading NodeId
  | 0 => throw .malformed
  | bound + 1 => do
    let token ← peek
    let sequence (items : Reading (List NodeId)) : Reading NodeId :=
      if depthLimit ≤ depth then throw .tooDeep
      else addSequence anchor (collectionKind tag .sequence) items
    let mapping (entries : Reading (List (NodeId × NodeId))) : Reading NodeId :=
      if depthLimit ≤ depth then throw .tooDeep
      else addMapping anchor (collectionKind tag .mapping) entries
    match token with
    | .scalar text plain =>
      drop
      add anchor ⟨scalarKind tag plain text, .scalar text⟩
    | .flowSequenceStart =>
      drop
      sequence (readFlowItems true (depth + 1) bound)
    | .flowMappingStart =>
      drop
      mapping (readFlowEntries true (depth + 1) bound)
    | _ =>
      if inMapping && token == .blockEntry then sequence (readBlockItems false (depth + 1) bound)
      else if block && token == .blockSequenceStart then
        drop
        sequence (readBlockItems true (depth + 1) bound)
      else if block && token == .blockMappingStart then
        drop
        mapping (readBlockEntries (depth + 1) bound)
      else if anchor.isSome || tag.isSome then add anchor ⟨scalarKind tag true [], .scalar []⟩
      else throw .malformed
termination_by structural bound => bound

/-- The items of a block sequence; one of its own ends with a token, one in a mapping without. -/
def readBlockItems (own : Bool) (depth : Nat) : Nat → Reading (List NodeId)
  | 0 => throw .malformed
  | bound + 1 => do
    let stops : List Token := if own then [.blockEntry, .blockEnd] else [.blockEntry, .key, .value, .blockEnd]
    match ← peek with
    | .blockEntry =>
      drop
      let item ← if ← atAny stops then addEmpty else readNode true false depth bound
      return item :: (← readBlockItems own depth bound)
    | token =>
      if !own then return []
      else if token == .blockEnd then
        drop
        return []
      else throw .malformed
termination_by structural bound => bound

/-- The entries of a block mapping. A key may stand without a value, not a value without a key. -/
def readBlockEntries (depth : Nat) : Nat → Reading (List (NodeId × NodeId))
  | 0 => throw .malformed
  | bound + 1 => do
    let part : Reading NodeId := do
      drop
      if ← atAny [.key, .value, .blockEnd] then addEmpty else readNode true true depth bound
    match ← peek with
    | .key =>
      let key ← part
      let value ← if ← atAny [.value] then part else addEmpty
      return (key, value) :: (← readBlockEntries depth bound)
    | .blockEnd =>
      drop
      return []
    | _ => throw .malformed
termination_by structural bound => bound

/-- An entry of a flow collection, from its key token; `stop` is the token that ends the
collection. -/
def readFlowEntry (stop : Token) (depth : Nat) : Nat → Reading (NodeId × NodeId)
  | 0 => throw .malformed
  | bound + 1 => do
    drop
    let key ← if ← atAny [.value, .flowEntry, stop] then addEmpty else readNode false false depth bound
    if ← atAny [.value] then
      drop
      let value ← if ← atAny [.flowEntry, stop] then addEmpty else readNode false false depth bound
      return (key, value)
    else return (key, ← addEmpty)
termination_by structural bound => bound

/-- The items of a flow sequence. An item with a key is a mapping of that one entry. -/
def readFlowItems (first : Bool) (depth : Nat) : Nat → Reading (List NodeId)
  | 0 => throw .malformed
  | bound + 1 => do
    if ← atAny [.flowSequenceEnd] then
      drop
      return []
    if !first then
      if ← atAny [.flowEntry] then drop else throw .malformed
    match ← peek with
    | .key =>
      if depthLimit ≤ depth then throw .tooDeep
      let entry := readFlowEntry .flowSequenceEnd (depth + 1) bound
      let item ← addMapping none .mapping (return [← entry])
      return item :: (← readFlowItems false depth bound)
    | .flowSequenceEnd =>
      drop
      return []
    | _ =>
      let item ← readNode false false depth bound
      return item :: (← readFlowItems false depth bound)
termination_by structural bound => bound

def readFlowEntries (first : Bool) (depth : Nat) : Nat → Reading (List (NodeId × NodeId))
  | 0 => throw .malformed
  | bound + 1 => do
    if ← atAny [.flowMappingEnd] then
      drop
      return []
    if !first then
      if ← atAny [.flowEntry] then drop else throw .malformed
    match ← peek with
    | .key =>
      let entry ← readFlowEntry .flowMappingEnd depth bound
      return entry :: (← readFlowEntries false depth bound)
    | .flowMappingEnd =>
      drop
      return []
    | _ =>
      let key ← readNode false false depth bound
      let value ← addEmpty
      return (key, value) :: (← readFlowEntries false depth bound)
termination_by structural bound => bound

end

/-! Documents. -/

def defaultHandles : List (String × String) := [("!", "!"), ("!!", "tag:yaml.org,2002:")]

open Reading

/-- Directives, and the tag handles that they declare. -/
def readDirectives (handles : List (String × String)) (versioned : Bool) :
    Nat → Reading (List (String × String))
  | 0 => throw .malformed
  | bound + 1 => do
    match ← peek with
    | .versionDirective major =>
      drop
      if versioned || major != 1 then throw .malformed
      readDirectives handles true bound
    | .tagDirective handle head =>
      drop
      if handles.any fun entry => entry.1 == handle then throw .malformed
      readDirectives ((handle, head) :: handles) versioned bound
    | .otherDirective =>
      drop
      readDirectives handles versioned bound
    | _ => return handles

/-- Directives, then the mark that starts a document. -/
def readHead (bound : Nat) : Reading Unit := do
  let handles ← readDirectives [] false bound
  modify fun reader => { reader with handles := handles ++ defaultHandles }
  if ← atAny [.documentStart] then drop else throw .malformed

def isDirective : Token → Bool
  | .versionDirective _ | .tagDirective .. | .otherDirective => true
  | _ => false

/-- After the document there may be end marks and then nothing. -/
def readEnd : Nat → Reading Unit
  | 0 => throw .malformed
  | bound + 1 => do
    match ← peek with
    | .documentEnd =>
      drop
      readEnd bound
    | .streamEnd => return
    | _ =>
      readHead bound
      throw .malformed

/-- The one document of a stream, if the stream holds any. -/
def readDocument (bound : Nat) : Reading (Option NodeId) := do
  let first ← peek
  if first == .streamEnd then return none
  let explicit := first == .documentStart || isDirective first
  if explicit then readHead bound
  let token ← peek
  let isEmpty := explicit &&
    (token == .documentStart || token == .documentEnd || token == .streamEnd || isDirective token)
  let root ← if isEmpty then addEmpty else readNode true false 0 bound
  readEnd bound
  return some root

/-- The nodes of a text, and the root among them if the text holds a document. -/
def readGraph (text : List Char) : Except Fault (Option NodeId × Graph) := do
  let bound := 16 * text.length + 64
  let (root, reader) ← (readDocument bound).run ⟨.ofText text, defaultHandles, [], .empty⟩
  return (root, reader.graph)

end TimeGate.Yaml
