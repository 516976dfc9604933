import ApiBridge.Document.Pointer

/-!
# Resolving references

Path items, parameters, request bodies and responses may be given by a reference to another part of
the document. `Document.resolve` puts what they refer to in their place. References inside schemas
stay, since a schema may well refer to itself.
-/

namespace ApiBridge

/-- The methods of a path item that hold operations. -/
inductive Method
  | get
  | put
  | post
  | delete
  | options
  | head
  | patch
  | trace
  deriving DecidableEq, Repr, Inhabited

namespace Method

def all : List Method :=
  [.get, .put, .post, .delete, .options, .head, .patch, .trace]

/-- The key of a method in a path item. -/
def key : Method → String
  | .get => "get"
  | .put => "put"
  | .post => "post"
  | .delete => "delete"
  | .options => "options"
  | .head => "head"
  | .patch => "patch"
  | .trace => "trace"

/-- The method with a given key. -/
def ofKey? (key : String) : Option Method :=
  all.find? fun m => m.key == key

end Method

namespace Document

/-- Is the node a map with a reference in it, and to what? -/
def reference? (g : Graph) (i : NodeId) : Option NodeId :=
  g.field? i "$ref"

/-- Follow references from a node to the first node that is none. `seen` holds the targets so far;
no target is followed twice, so `fuel` need not exceed the number of nodes. -/
def followFrom (d : Document) : Nat → List String → NodeId → Except ReferenceError NodeId
  | 0, _, i => .ok i
  | fuel + 1, seen, i =>
    match reference? d.graph i with
    | none => .ok i
    | some r =>
      match d.graph.text? r with
      | none => do throw (.notText (← (d.graph.unfold r).writtenQuoted.mapError .unwritable))
      | some target =>
        if seen.contains target then .error (.circular (seen ++ [target]))
        else do
          let j ← d.locate target
          followFrom d fuel (seen ++ [target]) j

/-- The first node on the way of references that is none. -/
def follow (d : Document) (i : NodeId) : Except ReferenceError NodeId :=
  d.followFrom (d.graph.nodes.size + 1) [] i

/-- Follow the entry of a map and let it lead to what is found. -/
def resolveEntry (owner : NodeId) (d : Document) (key : Scalar) :
    Except ReferenceError Document :=
  match (d.graph.entries? owner).bind (lookupKey key) with
  | none => .ok d
  | some i => do
    let j ← d.follow i
    return { d with graph := d.graph.setEntry owner key j }

/-- Follow every entry of a map. -/
def resolveEntries (d : Document) (owner : NodeId) : Except ReferenceError Document :=
  let keys := ((d.graph.entries? owner).getD []).map (·.1)
  keys.foldlM (resolveEntry owner) d

/-- Follow the parameters in the list of a path item or an operation. -/
def resolveParameters (d : Document) (owner : NodeId) : Except ReferenceError Document :=
  match (d.graph.field? owner "parameters").bind d.graph.items? with
  | none => .ok d
  | some items => do
    let items ← items.mapM d.follow
    let (list, graph) := d.graph.push (.list items)
    return { d with graph := graph.setEntry owner (.text "parameters") list }

/-- Resolve the parts of an operation. -/
def resolveOperation (d : Document) (operation : NodeId) : Except ReferenceError Document := do
  let d ← d.resolveParameters operation
  let d ← d.resolveEntry operation (.text "requestBody")
  match d.graph.field? operation "responses" with
  | some responses => d.resolveEntries responses
  | none => return d

/-- Resolve the parts of a path item. -/
def resolvePathItem (d : Document) (item : NodeId) : Except ReferenceError Document := do
  let d ← d.resolveParameters item
  Method.all.foldlM (fun d m =>
    match d.graph.field? item m.key with
    | some operation =>
      if (d.graph.entries? operation).isSome then d.resolveOperation operation else .ok d
    | none => .ok d) d

/-- Resolve the path item under a key of the paths. -/
def resolvePath (paths : NodeId) (d : Document) (key : Scalar) :
    Except ReferenceError Document := do
  let d ← d.resolveEntry paths key
  match (d.graph.entries? paths).bind (lookupKey key) with
  | some item => if (d.graph.entries? item).isSome then d.resolvePathItem item else return d
  | none => return d

/-- The document with all references in the places of operations replaced by their targets. -/
def resolve (d : Document) : Except ReferenceError Document :=
  match d.graph.entries? d.root with
  | none => .error (.rootNotMap (d.graph.node d.root).kindName)
  | some _ =>
    match d.field? "paths" with
    | none => .ok d
    | some paths =>
      ((d.graph.entries? paths).getD []).foldlM (fun d e => d.resolvePath paths e.1) d

end Document

end ApiBridge
