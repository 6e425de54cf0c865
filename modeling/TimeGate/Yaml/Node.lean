import TimeGate.Yaml.Kind
import TimeGate.Text.CodePoints

/-! The nodes of a document. A node names its parts by their places in the graph, so that a node can be
part of several others, and of itself. -/

set_option autoImplicit false

namespace TimeGate.Yaml

/-- The place of a node in its graph. -/
abbrev NodeId := Nat

inductive Form where
  | scalar (text : Text.CodePoints)
  | sequence (items : List NodeId)
  | mapping (entries : List (NodeId × NodeId))
  deriving DecidableEq, Repr

structure Node where
  kind : Kind
  form : Form
  deriving DecidableEq, Repr

def Node.empty : Node := ⟨.null, .scalar []⟩

structure Graph where
  nodes : Array Node
  deriving DecidableEq, Repr

namespace Graph

def empty : Graph := ⟨#[]⟩

def size (graph : Graph) : Nat := graph.nodes.size

/-- Adds a node and names its place. -/
def push (graph : Graph) (node : Node) : NodeId × Graph := (graph.size, ⟨graph.nodes.push node⟩)

def get (graph : Graph) (id : NodeId) : Node := graph.nodes[id]?.getD .empty

def kind (graph : Graph) (id : NodeId) : Kind := (graph.get id).kind

/-- The entries of a mapping; nothing else has any. -/
def entries (graph : Graph) (id : NodeId) : List (NodeId × NodeId) :=
  match (graph.get id).form with
  | .mapping entries => entries
  | _ => []

def update (graph : Graph) (id : NodeId) (change : Node → Node) : Graph :=
  ⟨graph.nodes.modify id change⟩

def setForm (graph : Graph) (id : NodeId) (form : Form) : Graph :=
  graph.update id fun node => { node with form := form }

/-- Lets a default key count as its own text from now on. -/
def keepAsText (graph : Graph) (id : NodeId) : Graph :=
  graph.update id fun node => if node.kind = .defaultKey then { node with kind := .text } else node

/-! Merge keys. -/

/-- Takes the merge keys out of a mapping one after the other and puts the entries that they merge in
before all others, in the order found. A mapping that is merged in is itself rid of its merge keys
first; of a sequence of mappings the last goes first. Every round takes a merge key away for good. -/
def mergeFrom (graph : Graph) : Nat → List (NodeId × NodeId) → NodeId → Except Fault Graph
  | 0, _, _ => .ok graph
  | bound + 1, found, id =>
    let (before, rest) := (graph.entries id).span fun entry => graph.kind entry.1 != .merge
    let graph := before.foldl (fun graph entry => graph.keepAsText entry.1) graph
    match rest with
    | [] => .ok (if found.isEmpty then graph else graph.setForm id (.mapping (found ++ before)))
    | (_, source) :: after => do
      let graph := graph.setForm id (.mapping (before ++ after))
      let mergedIn (graph : Graph) (source : NodeId) : Except Fault (List (NodeId × NodeId) × Graph) :=
        match (graph.get source).form with
        | .mapping _ => do
          let graph ← mergeFrom graph bound [] source
          return (graph.entries source, graph)
        | _ => .error .malformed
      let (more, graph) ← match (graph.get source).form with
        | .sequence items =>
          items.foldlM (fun (sum : List (NodeId × NodeId) × Graph) item => do
            let (more, graph) ← mergedIn sum.2 item
            return (more ++ sum.1, graph)) ([], graph)
        | _ => mergedIn graph source
      mergeFrom graph bound (found ++ more) id

def entryCount (graph : Graph) : Nat :=
  graph.nodes.foldl (fun sum node =>
    match node.form with
    | .mapping entries => sum + entries.length
    | _ => sum) 0

/-! Scalars. -/

/-- The text that a node gives to a scalar kind. A mapping gives that of its default key. -/
def scalarText (graph : Graph) : Nat → NodeId → Except Fault Text.CodePoints
  | 0, _ => .error .tooDeep
  | bound + 1, id =>
    match (graph.get id).form with
    | .scalar text => .ok text
    | .sequence _ => .error .malformed
    | .mapping entries =>
      match entries.find? fun entry => graph.kind entry.1 == .defaultKey with
      | some entry => scalarText graph bound entry.2
      | none => .error .malformed

end Graph

end TimeGate.Yaml
