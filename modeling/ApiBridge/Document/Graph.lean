import ApiBridge.Value.Layer
import ApiBridge.Value.Text

/-!
# Documents as graphs

A document is a graph of nodes: a node that is reached in two ways is one node, and a change to it
shows in both places. A node may even be reached from itself. `Graph.ofValue` lays a tree out as a
graph, and `Graph.unfold` follows the graph from a node as a tree.
-/

namespace ApiBridge

/-- The place of a node in its graph. -/
abbrev NodeId := Nat

/-- A node: a scalar, or a container that refers to its parts. -/
abbrev Node := Layer NodeId

/-- A graph of nodes. -/
structure Graph where
  nodes : Array Node
  deriving Repr, Inhabited

namespace Graph

def empty : Graph := ⟨#[]⟩

/-- The node at a place. -/
def node (g : Graph) (i : NodeId) : Node :=
  g.nodes.getD i (.scalar .null)

/-- Add a node. -/
def push (g : Graph) (n : Node) : NodeId × Graph :=
  (g.nodes.size, ⟨g.nodes.push n⟩)

/-- Replace the node at a place. -/
def put (g : Graph) (i : NodeId) (n : Node) : Graph :=
  ⟨g.nodes.setIfInBounds i n⟩

/-! ### Access -/

/-- The entries of a map. -/
def entries? (g : Graph) (i : NodeId) : Option (List (Scalar × NodeId)) :=
  (g.node i).entries?

/-- The items of a list. -/
def items? (g : Graph) (i : NodeId) : Option (List NodeId) :=
  (g.node i).items?

/-- The text of a text. -/
def text? (g : Graph) (i : NodeId) : Option String :=
  (g.node i).text?

/-- The node under a name, where there is a map with that name as a key. -/
def field? (g : Graph) (i : NodeId) (name : String) : Option NodeId :=
  (g.node i).field? name

/-- The text under a name, if there is one. -/
def fieldText? (g : Graph) (i : NodeId) (name : String) : Option String :=
  (g.field? i name).bind g.text?

/-- Let the entry of a map lead to another node. -/
def setEntry (g : Graph) (i : NodeId) (key : Scalar) (child : NodeId) : Graph :=
  match g.node i with
  | .map entries => g.put i (.map (insertKey key child entries))
  | _ => g

/-! ### Trees -/

mutual

/-- Lay a value out as nodes. -/
def addValue (g : Graph) : Value → NodeId × Graph
  | .scalar s => g.push (.scalar s)
  | .list items =>
    let (ids, g) := addItems g items
    g.push (.list ids)
  | .map entries =>
    let (es, g) := addEntries g entries
    g.push (.map es)
  | .set members => g.push (.set members)
  | .pair a b =>
    let (a, g) := addValue g a
    let (b, g) := addValue g b
    g.push (.pair a b)
  | .again _ => g.push (.scalar .null)

def addItems (g : Graph) : List Value → List NodeId × Graph
  | [] => ([], g)
  | v :: vs =>
    let (i, g) := addValue g v
    let (is, g) := addItems g vs
    (i :: is, g)

def addEntries (g : Graph) : List (Scalar × Value) → List (Scalar × NodeId) × Graph
  | [] => ([], g)
  | (k, v) :: es =>
    let (i, g) := addValue g v
    let (is, g) := addEntries g es
    ((k, i) :: is, g)

end

/-- Follow the graph from a node. A node that is met again on the way to it ends the tree there;
`fuel` bounds the length of the way, which the number of nodes does as well. -/
def unfoldFrom (g : Graph) : Nat → List NodeId → NodeId → Value
  | 0, _, _ => .again false
  | fuel + 1, way, i =>
    match g.node i with
    | .scalar s => .scalar s
    | .set members => .set members
    | .list items =>
      if way.contains i then .again false
      else .list (items.map (unfoldFrom g fuel (i :: way)))
    | .map entries =>
      if way.contains i then .again true
      else .map (entries.map fun e => (e.1, unfoldFrom g fuel (i :: way) e.2))
    | .pair a b =>
      if way.contains i then .again false
      else .pair (unfoldFrom g fuel (i :: way) a) (unfoldFrom g fuel (i :: way) b)

/-- The tree below a node. -/
def unfold (g : Graph) (i : NodeId) : Value :=
  unfoldFrom g (g.nodes.size + 2) [] i

end Graph

/-! ### Documents -/

/-- A graph with the node that stands for the whole document. -/
structure Document where
  graph : Graph
  root : NodeId
  deriving Repr, Inhabited

namespace Document

/-- The document of a tree. -/
def ofValue (v : Value) : Document :=
  let (root, graph) := Graph.empty.addValue v
  ⟨graph, root⟩

/-- The document as a tree. -/
def toValue (d : Document) : Value :=
  d.graph.unfold d.root

/-- A part of a document is looked at as the document of its node. -/
instance : Layered Document where
  layer d := (d.graph.node d.root).mapParts (Document.mk d.graph)
  value := toValue

/-- The node under a name of the whole document. -/
def field? (d : Document) (name : String) : Option NodeId :=
  d.graph.field? d.root name

end Document

end ApiBridge
