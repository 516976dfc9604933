import ApiBridge.Yaml.Error
import ApiBridge.Yaml.Node

/-!
# Merging mappings

A mapping may take over the entries of others. They stand in front of its own entries, and of two
entries with one key the last counts.
-/

namespace ApiBridge.Yaml

/-- The number of entries whose own entries are to be taken over. -/
def mergeCount (ns : Nodes) : Nat :=
  ns.foldl (fun n x => n + match x.content with
    | .mapping es => (es.filter fun e => (ns.getD e.1 default).tag = .merge).length
    | _ => 0) 0

/-- The entries of a mapping. -/
def entriesOf (ns : Nodes) (i : NodeId) : List (NodeId × NodeId) :=
  match (ns.getD i default).content with
  | .mapping es => es
  | _ => []

/-- Replace the entries of a mapping. -/
def putEntries (ns : Nodes) (i : NodeId) (es : List (NodeId × NodeId)) : Nodes :=
  ns.modify i fun n => { n with content := .mapping es }

/-- Is the node a mapping? -/
def isMapping (ns : Nodes) (i : NodeId) : Bool :=
  match (ns.getD i default).content with
  | .mapping _ => true
  | _ => false

/-- Let keys that stand for a whole mapping be texts. -/
def plainKeys (ns : Nodes) (keys : List NodeId) : Nodes :=
  keys.foldl (fun ns k => ns.modify k fun n =>
    if n.tag = .value then { n with tag := .text } else n) ns

/-- Take over the entries that a mapping merges, in front of its own; `place` is where the search
for the next of them begins, and `taken` holds what was found. Every step takes one merge away, so
`fuel` need not exceed their number. -/
def mergeFrom : Nat → Nodes → NodeId → (place : Nat) → (taken : List (NodeId × NodeId)) →
    Except Error Nodes
  | 0, ns, _, _, _ => .ok ns
  | fuel + 1, ns, i, place, taken => do
    let es := entriesOf ns i
    let own := (es.drop place).takeWhile fun e => (ns.getD e.1 default).tag ≠ .merge
    let ns := plainKeys ns (own.map (·.1))
    match es.drop (place + own.length) with
    | [] => return if taken.isEmpty then ns else putEntries ns i (taken ++ es)
    | (_, source) :: _ =>
      let ns := putEntries ns i (es.eraseIdx (place + own.length))
      let (ns, found) ← match (ns.getD source default).content with
        | .mapping _ => do
          let ns ← mergeFrom fuel ns source 0 []
          pure (ns, entriesOf ns source)
        | .sequence items => do
          let (ns, found) ← items.foldlM (fun (ns, found) item =>
            if isMapping ns item then do
              let ns ← mergeFrom fuel ns item 0 []
              return (ns, entriesOf ns item ++ found)
            else malformed "a merge of what is no mapping") (ns, [])
          pure (ns, found)
        | .scalar _ => malformed "a merge of what is no mapping"
      mergeFrom fuel ns i (place + own.length) (taken ++ found)

/-- Take over the entries that a mapping merges, where there are `merges` merges at most. -/
def merge (merges : Nat) (ns : Nodes) (i : NodeId) : Except Error Nodes :=
  mergeFrom (merges + 1) ns i 0 []

end ApiBridge.Yaml
