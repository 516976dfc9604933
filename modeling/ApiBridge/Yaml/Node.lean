import ApiBridge.Document.Graph

/-!
# Nodes of YAML

A YAML text is a graph of nodes. Each has a tag that says what it stands for, and nodes may be
reached in several ways through aliases.
-/

namespace ApiBridge.Yaml

/-- What a node stands for. -/
inductive Tag
  | null
  | truth
  | integer
  | float
  | binary
  | timestamp
  | text
  | sequence
  | mapping
  | orderedMap
  | pairs
  | set
  /-- The key of a mapping whose entries are taken over. -/
  | merge
  /-- The key of the entry that stands for a whole mapping. -/
  | value
  /-- Any other tag stands for nothing that is known. -/
  | other (name : String)
  deriving DecidableEq, Repr, Inhabited

/-- The start of the names of known tags. -/
def tagDomain : String := "tag:yaml.org,2002:"

/-- The known tags by the ends of their names. -/
def knownTags : List (String × Tag) :=
  [("null", .null), ("bool", .truth), ("int", .integer), ("float", .float), ("binary", .binary),
    ("timestamp", .timestamp), ("str", .text), ("seq", .sequence), ("map", .mapping),
    ("omap", .orderedMap), ("pairs", .pairs), ("set", .set), ("merge", .merge),
    ("value", .value)]

/-- The tag with a name. -/
def Tag.ofName (name : String) : Tag :=
  ((knownTags.find? fun t => tagDomain ++ t.1 = name).map (·.2)).getD (.other name)

/-- What a node holds. -/
inductive Content
  | scalar (text : String)
  | sequence (items : List NodeId)
  | mapping (entries : List (NodeId × NodeId))
  deriving DecidableEq, Repr, Inhabited

/-- A node. -/
structure YamlNode where
  tag : Tag
  content : Content
  deriving DecidableEq, Repr, Inhabited

/-- The nodes of a text. -/
abbrev Nodes := Array YamlNode

end ApiBridge.Yaml
