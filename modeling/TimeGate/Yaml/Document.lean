import TimeGate.Yaml.NodeReader
import TimeGate.Yaml.Scalar

/-! The value of a document. Collections are filled level by level from the outside in, so of several
faults the outermost is reported, and of those on one level the first. A collection is filled once,
however often it is referred to; only when all are filled are they put inside each other. -/

set_option autoImplicit false

namespace TimeGate.Yaml

/-- What a node stands for before all collections are filled. A collection is named by its node. -/
inductive Item where
  | leaf (value : Scalar)
  | collection (id : NodeId)
  deriving DecidableEq, Repr

/-- What a collection holds. Of a set and of pairs only their number is ever asked. -/
inductive Filled where
  | list (items : List Item)
  | map (entries : List (Scalar × Item))
  | set (isEmpty : Bool)
  | pairs (count : Nat)
  deriving DecidableEq, Repr

/-- What the nodes met so far stand for, the collections among them that are not yet filled, the last
first, and the contents of those that are. -/
structure Builder where
  graph : Graph
  /-- More merge keys than the document has; carrying one out adds none. -/
  mergeBound : Nat
  met : Array (Option Item)
  waiting : List NodeId
  filled : Array (Option Filled)

abbrev Building (α : Type) := StateT Builder (Except Fault) α

/-- Puts in an entry. A repeated key keeps its place and takes the last value. -/
def putEntry (entries : List (Scalar × Item)) (key : Scalar) (value : Item) : List (Scalar × Item) :=
  if entries.any fun entry => entry.1.sameKey key then
    entries.map fun entry => if entry.1.sameKey key then (entry.1, value) else entry
  else entries ++ [(key, value)]

/-- The scalar that a node of a scalar kind stands for. A date has to be written as a scalar. -/
def Graph.scalar (graph : Graph) (id : NodeId) : Except Fault Scalar := do
  let kind := graph.kind id
  if kind == .merge || kind == .defaultKey || kind == .unknown then throw .malformed
  let text ← graph.scalarText (graph.size + 1) id
  match kind, (graph.get id).form with
  | .timestamp, .mapping _ => throw .dateOfMapping
  | _, _ => scalarValue kind text

namespace Building

/-- Notes what a node stands for; a collection waits to be filled. -/
def meet (id : NodeId) (item : Item) : Building Unit :=
  modify fun builder =>
    { builder with
      met := builder.met.setIfInBounds id (some item)
      waiting := match item with
        | .collection id => id :: builder.waiting
        | .leaf _ => builder.waiting }

/-- What a node stands for. It is told once, whatever happens to the graph later. -/
def item (id : NodeId) : Building Item := do
  let builder ← get
  match builder.met.getD id none with
  | some item => return item
  | none =>
    let item ← if (builder.graph.kind id).isCollection then pure (Item.collection id)
      else (builder.graph.scalar id).map Item.leaf
    meet id item
    return item

/-- The entries of a mapping, merge keys carried out. Only scalars can be keys. -/
def entries (id : NodeId) : Building (List (Scalar × Item)) := do
  let builder ← get
  let graph ← builder.graph.mergeFrom builder.mergeBound [] id
  set { builder with graph := graph }
  (graph.entries id).foldlM (fun found entry => do
    match ← item entry.1 with
    | .collection _ => throw .malformed
    | .leaf key => return putEntry found key (← item entry.2)) []

/-- A pair is written as a mapping of one entry. -/
def pair (id : NodeId) : Building Unit := do
  match (← get).graph.entries id with
  | [(key, value)] =>
    let _ ← item key
    let _ ← item value
  | _ => throw .malformed

def contents (id : NodeId) : Building Filled := do
  let node := (← get).graph.get id
  match node.kind, node.form with
  | .sequence, .sequence items => return .list (← items.mapM item)
  | .mapping, .mapping _ => return .map (← entries id)
  | .set, .mapping _ => return .set (← entries id).isEmpty
  | .orderedMap, .sequence items | .pairs, .sequence items =>
    items.forM pair
    return .pairs items.length
  | _, _ => throw .malformed

def fill (id : NodeId) : Building Unit := do
  let filled ← contents id
  modify fun builder => { builder with filled := builder.filled.setIfInBounds id (some filled) }

/-- Fills the collections met so far, then those met on the way. Each is met once. -/
def fillAll : Nat → Building Unit
  | 0 => return
  | bound + 1 => do
    let level := (← get).waiting.reverse
    if level.isEmpty then return
    modify fun builder => { builder with waiting := [] }
    level.forM fill
    fillAll bound

end Building

def Item.toValue (filled : Array (Option Filled)) : Nat → List NodeId → Item → Value
  | _, _, .leaf value => .scalar value
  | 0, _, .collection _ => .scalar (.foreign .loop)
  | bound + 1, path, .collection id =>
    if path.contains id then .scalar (.foreign .loop)
    else match filled.getD id none with
      | some (.list items) => .list (items.map (toValue filled bound (id :: path)))
      | some (.map entries) =>
        .map (entries.map fun entry => (entry.1, toValue filled bound (id :: path) entry.2))
      | some (.set isEmpty) => .scalar (.foreign (.set isEmpty))
      | some (.pairs count) => .list (List.replicate count (.scalar (.foreign .pair)))
      | none => .null

def Graph.value (graph : Graph) (root : NodeId) : Except Fault Value := do
  let start : Builder :=
    { graph := graph
      mergeBound := graph.entryCount + 1
      met := .replicate graph.size none
      waiting := []
      filled := .replicate graph.size none }
  let build : Building Item := do
    let item ← Building.item root
    Building.fillAll (graph.size + 1)
    return item
  let (item, builder) ← build.run start
  return item.toValue builder.filled (graph.size + 1) []

/-- Characters that a document may hold unescaped. -/
def isAdmissible (c : Char) : Bool :=
  let n := c.toNat
  n == 0x09 || n == 0x0A || n == 0x0D || (0x20 ≤ n && n ≤ 0x7E) || n == 0x85 ||
    (0xA0 ≤ n && n ≤ 0xFFFD) || 0x10000 ≤ n

def read (text : List Char) : Except Fault Value := do
  if !text.all isAdmissible then throw .malformed
  match ← readGraph text with
  | (none, _) => return .null
  | (some root, graph) => graph.value root

end TimeGate.Yaml
