import ApiBridge.Yaml.Node.Merge
import ApiBridge.Yaml.Node.OfTokens
import ApiBridge.Yaml.ScalarValue

/-!
# From nodes to documents

The builder turns the nodes of a text into the nodes of a document, level by level from the root. A
node that is reached in several ways is built once, so it is one node in the document too.
-/

namespace ApiBridge.Yaml

/-! ### Scalars -/

/-- The text of a scalar, or of the entry that stands for a whole mapping; `fuel` bounds how often
that is done. -/
def textOf (ns : Nodes) : Nat → NodeId → Except Error String
  | 0, _ => malformed "a mapping that stands for itself"
  | fuel + 1, i =>
    match (ns.getD i default).content with
    | .scalar s => .ok s
    | .sequence _ => malformed "a sequence in the place of a scalar"
    | .mapping es =>
      match es.find? fun e => (ns.getD e.1 default).tag = .value with
      | some e => textOf ns fuel e.2
      | none => malformed "a mapping in the place of a scalar"

/-- The scalar of a node with the tag of one. -/
def scalarOf (ns : Nodes) (i : NodeId) : Except Error Scalar := do
  let text := textOf ns (ns.size + 1) i
  match (ns.getD i default).tag with
  | .null => text.map fun _ => .null
  | .truth => return .bool (← truthOf (← text))
  | .integer => return .int (← integerOf (← text))
  | .float => return .float (← floatOf (i + 1) (← text))
  | .binary => return .bytes (← bytesOf (← text))
  | .timestamp =>
    let s ← text
    if isMapping ns i then throw .timestampNotText else timestampOf s
  | .text => return .text (← text)
  | _ => malformed "an unknown tag"

/-! ### Building -/

/-- The state of the builder. -/
structure Building where
  nodes : Nodes
  /-- How many merges there were. -/
  merges : Nat
  /-- The nodes of the document by the nodes of the text. -/
  built : Array (Option NodeId)
  graph : Graph
  /-- The collections of the text, with their nodes in the document; their parts are built in this
  order. -/
  collections : Array (NodeId × NodeId)

/-- A step of the builder. -/
abbrev Builder (α : Type) := StateT Building (Except Error) α

namespace Builder

/-- A new node of the document. -/
def add (n : Node) : Builder NodeId :=
  modifyGet fun s => ((s.graph.push n).1, { s with graph := (s.graph.push n).2 })

/-- What a collection with a tag is before its parts are built. -/
def emptyOf : Tag → Option Node
  | .sequence | .orderedMap | .pairs => some (.list [])
  | .mapping => some (.map [])
  | .set => some (.set [])
  | _ => none

/-- The node of the document for a node of the text. The parts of a collection are left for
later. -/
def build (i : NodeId) : Builder NodeId := do
  let s ← get
  match s.built.getD i none with
  | some j => return j
  | none =>
    let empty := emptyOf (s.nodes.getD i default).tag
    let j ← match empty with
      | some n => add n
      | none => do add (.scalar (← scalarOf s.nodes i))
    modify fun s => { s with
      built := s.built.setIfInBounds i (some j)
      collections := if empty.isSome then s.collections.push (i, j) else s.collections }
    return j

/-- A key, which must be a scalar. -/
def buildKey (i : NodeId) : Builder Scalar := do
  let j ← build i
  match (← get).graph.node j with
  | .scalar s => return s
  | _ => throw (.malformed "a key that is a collection")

/-- The entries of a mapping, with what it merges. -/
def buildEntries (i : NodeId) : Builder (List (Scalar × NodeId)) := do
  let s ← get
  if !isMapping s.nodes i then throw (.malformed "no mapping where one is needed")
  let nodes ← merge s.merges s.nodes i
  set { s with nodes := nodes }
  let entries ← (entriesOf nodes i).mapM fun (k, v) => do
    let key ← buildKey k
    return (key, ← build v)
  return mergeKeys entries

/-- The items of a sequence. -/
def itemsOf (i : NodeId) : Builder (List NodeId) := do
  match ((← get).nodes.getD i default).content with
  | .sequence items => return items
  | _ => throw (.malformed "no sequence where one is needed")

/-- A pair from a mapping with a single entry. -/
def buildPair (i : NodeId) : Builder NodeId := do
  match ((← get).nodes.getD i default).content with
  | .mapping [(k, v)] =>
    let first ← build k
    let second ← build v
    add (.pair first second)
  | _ => throw (.malformed "no single entry where one is needed")

/-- The parts of a collection. -/
def buildParts (i : NodeId) : Builder Node := do
  match ((← get).nodes.getD i default).tag with
  | .mapping => return .map (← buildEntries i)
  | .set => return .set ((← buildEntries i).map (·.1))
  | .sequence => return .list (← (← itemsOf i).mapM build)
  | _ => return .list (← (← itemsOf i).mapM buildPair)

/-- Build the parts of the collections from a place on; `fuel` bounds their number. -/
def buildFrom : Nat → (place : Nat) → Builder Unit
  | 0, _ => return
  | fuel + 1, place => do
    match (← get).collections[place]? with
    | none => return
    | some (i, j) =>
      let n ← buildParts i
      modify fun s => { s with graph := s.graph.put j n }
      buildFrom fuel (place + 1)

end Builder

/-- The document that a text holds; a text without a document holds nothing. -/
def read (s : String) : Except Error Document := do
  match ← nodesOfText s.toList with
  | (none, _) => return .ofValue .null
  | (some root, nodes) =>
    let start : Building :=
      ⟨nodes, mergeCount nodes, Array.replicate nodes.size none, .empty, #[]⟩
    let building : Builder NodeId := do
      let j ← Builder.build root
      Builder.buildFrom (nodes.size + 1) 0
      return j
    let (j, final) ← building.run start
    return ⟨final.graph, j⟩

end ApiBridge.Yaml
