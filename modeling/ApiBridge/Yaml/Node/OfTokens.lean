import ApiBridge.Yaml.ImplicitTag
import ApiBridge.Yaml.Node
import ApiBridge.Yaml.Token.Lexer

/-!
# From tokens to nodes

The nodes of a single document are read from its tokens. An anchor names a node, and an
alias is the node that was named.
-/

namespace ApiBridge.Yaml

/-- What is known while nodes are read. -/
structure NodeState where
  tokens : List Token
  /-- What is wrong after the last of the tokens. -/
  failure : Error
  /-- What the handles of tags stand for. -/
  handles : List (String × String)
  anchors : List (String × NodeId)
  nodes : Nodes

/-- A step of reading nodes. -/
abbrev NodeReader (α : Type) := StateT NodeState (Except Error) α

namespace NodeReader

/-! ### Tokens -/

/-- The next token. -/
def peek : NodeReader Token := do
  match (← get).tokens with
  | t :: _ => return t
  | [] => throw (← get).failure

/-- Go past the next token. -/
def drop : NodeReader Unit :=
  modify fun s => { s with tokens := s.tokens.tail }

/-- Go past the next token if it is this one. -/
def accept (t : Token) : NodeReader Bool := do
  if (← peek) = t then
    drop
    return true
  else return false

/-- Go past a token that must be there. -/
def expect (t : Token) (reason : String) : NodeReader Unit := do
  if !(← accept t) then throw (.malformed reason)

/-! ### Nodes -/

/-- Add a node, under its anchor if it has one. An anchor names one node only. -/
def addNode (anchor : Option String) (n : YamlNode) : NodeReader NodeId := do
  if let some a := anchor then
    if ((← get).anchors.lookup a).isSome then throw (.malformed "an anchor given twice")
  let i := (← get).nodes.size
  modify fun s => { s with
    nodes := s.nodes.push n
    anchors := (anchor.map fun a => (a, i)).toList ++ s.anchors }
  return i

/-- Fill a node. -/
def fillNode (i : NodeId) (content : Content) : NodeReader Unit :=
  modify fun s => { s with nodes := s.nodes.modify i fun n => { n with content := content } }

/-- The node of a scalar without a text. -/
def emptyScalar : NodeReader NodeId :=
  addNode none ⟨.null, .scalar ""⟩

/-- The node that an alias names. -/
def aliased (name : String) : NodeReader NodeId := do
  match (← get).anchors.lookup name with
  | some i => return i
  | none => throw (.malformed "an alias without an anchor")

/-! ### Properties -/

/-- The full name of a tag. -/
def tagName (handle : Option String) (suffix : String) : NodeReader String := do
  match handle with
  | none => return suffix
  | some h =>
    match (← get).handles.lookup h with
    | some replacement => return replacement ++ suffix
    | none => throw (.malformed "an unknown handle in front of a tag")

/-- The anchor of the next node, if it has one. -/
def takeAnchor : NodeReader (Option String) := do
  match ← peek with
  | .anchor name =>
    drop
    return some name
  | _ => return none

/-- The tag of the next node, if it has one. -/
def takeTag : NodeReader (Option (Option String × String)) := do
  match ← peek with
  | .tag handle suffix =>
    drop
    return some (handle, suffix)
  | _ => return none

/-- The anchor and the tag of the next node, in either order. -/
def takeProperties : NodeReader (Option String × Option String) := do
  let first ← takeAnchor
  let tag ← takeTag
  let anchor ← if first.isNone && tag.isSome then takeAnchor else pure first
  match tag with
  | none => return (anchor, none)
  | some (handle, suffix) => return (anchor, some (← tagName handle suffix))

/-- The tag of a node with a written tag; `!` counts as none. -/
def tagOf (written : Option String) (default : Tag) : Tag :=
  match written with
  | none => default
  | some "!" => default
  | some name => Tag.ofName name

/-- The tag of a scalar. Only a plain one without a tag, or one with the tag `!`, gets its tag from
its text. -/
def scalarTag (written : Option String) (plain : Bool) (text : String) : Tag :=
  match written with
  | none => if plain then implicitTag text else .text
  | some "!" => implicitTag text
  | some name => Tag.ofName name

/-! ### Documents -/

/-- What may follow the mark of an entry in a block that has no content. -/
def endsBlockEntry : Token → Bool
  | .blockEntry | .blockEnd => true
  | _ => false

/-- What may follow the mark of a key or a value, or of an entry without an own block. -/
def endsBlockPart : Token → Bool
  | .key | .value | .blockEnd => true
  | _ => false

mutual

/-- A node. `block` says whether it may be a block, and `entries` whether it may be a row of entries
without an own block. `fuel` bounds the nesting and the number of parts. -/
def node : Nat → (block entries : Bool) → NodeReader NodeId
  | 0, _, _ => throw (.malformed "a document that does not end")
  | fuel + 1, block, entries => do
    if let .alias name := ← peek then
      drop
      return ← aliased name
    let (anchor, tag) ← takeProperties
    let collection (default : Tag) (empty : Content) : NodeReader NodeId :=
      addNode anchor ⟨tagOf tag default, empty⟩
    match ← peek with
    | .scalar text plain =>
      drop
      addNode anchor ⟨scalarTag tag plain text, .scalar text⟩
    | .flowSequenceStart =>
      drop
      let i ← collection .sequence (.sequence [])
      fillNode i (.sequence (← flowItems fuel true))
      return i
    | .flowMappingStart =>
      drop
      let i ← collection .mapping (.mapping [])
      fillNode i (.mapping (← flowEntries fuel true))
      return i
    | t =>
      if entries && t = .blockEntry then
        let i ← collection .sequence (.sequence [])
        fillNode i (.sequence (← looseItems fuel))
        return i
      else if block && t = .blockSequenceStart then
        drop
        let i ← collection .sequence (.sequence [])
        fillNode i (.sequence (← blockItems fuel))
        return i
      else if block && t = .blockMappingStart then
        drop
        let i ← collection .mapping (.mapping [])
        fillNode i (.mapping (← blockEntries fuel))
        return i
      else if anchor.isSome || tag.isSome then
        addNode anchor ⟨scalarTag tag true "", .scalar ""⟩
      else throw (.malformed "a node without content")

/-- The items of a block sequence. -/
def blockItems : Nat → NodeReader (List NodeId)
  | 0 => throw (.malformed "a document that does not end")
  | fuel + 1 => do
    if ← accept .blockEntry then
      let i ← if endsBlockEntry (← peek) then emptyScalar else node fuel true false
      return i :: (← blockItems fuel)
    else
      expect .blockEnd "a sequence that does not end"
      return []

/-- The items of a row of entries without an own block. -/
def looseItems : Nat → NodeReader (List NodeId)
  | 0 => throw (.malformed "a document that does not end")
  | fuel + 1 => do
    if ← accept .blockEntry then
      let t ← peek
      let i ← if t = .blockEntry || endsBlockPart t then emptyScalar else node fuel true false
      return i :: (← looseItems fuel)
    else return []

/-- The entries of a block mapping. -/
def blockEntries : Nat → NodeReader (List (NodeId × NodeId))
  | 0 => throw (.malformed "a document that does not end")
  | fuel + 1 => do
    if ← accept .key then
      let key ← if endsBlockPart (← peek) then emptyScalar else node fuel true true
      let value ←
        if ← accept .value then
          if endsBlockPart (← peek) then emptyScalar else node fuel true true
        else emptyScalar
      return (key, value) :: (← blockEntries fuel)
    else
      expect .blockEnd "a mapping that does not end"
      return []

/-- A part of a flow collection, up to the next of the tokens `ends`. -/
def flowPart : Nat → (ends : List Token) → NodeReader NodeId
  | 0, _ => throw (.malformed "a document that does not end")
  | fuel + 1, ends => do
    if ends.contains (← peek) then emptyScalar else node fuel false false

/-- The value after a key of a flow collection that `last` ends. -/
def flowValue : Nat → (last : Token) → NodeReader NodeId
  | 0, _ => throw (.malformed "a document that does not end")
  | fuel + 1, last => do
    if ← accept .value then flowPart fuel [.flowEntry, last] else emptyScalar

/-- The items of a flow sequence; `first` says that none were read. -/
def flowItems : Nat → (first : Bool) → NodeReader (List NodeId)
  | 0, _ => throw (.malformed "a document that does not end")
  | fuel + 1, first => do
    if ← accept .flowSequenceEnd then return []
    if !first then expect .flowEntry "items without a comma"
    if ← accept .key then
      let i ← addNode none ⟨.mapping, .mapping []⟩
      let key ← flowPart fuel [.value, .flowEntry, .flowSequenceEnd]
      let value ← flowValue fuel .flowSequenceEnd
      fillNode i (.mapping [(key, value)])
      return i :: (← flowItems fuel false)
    else if ← accept .flowSequenceEnd then return []
    else
      let i ← node fuel false false
      return i :: (← flowItems fuel false)

/-- The entries of a flow mapping; `first` says that none were read. -/
def flowEntries : Nat → (first : Bool) → NodeReader (List (NodeId × NodeId))
  | 0, _ => throw (.malformed "a document that does not end")
  | fuel + 1, first => do
    if ← accept .flowMappingEnd then return []
    if !first then expect .flowEntry "entries without a comma"
    if ← accept .key then
      let key ← flowPart fuel [.value, .flowEntry, .flowMappingEnd]
      let value ← flowValue fuel .flowMappingEnd
      return (key, value) :: (← flowEntries fuel false)
    else if ← accept .flowMappingEnd then return []
    else
      let key ← node fuel false false
      let value ← emptyScalar
      return (key, value) :: (← flowEntries fuel false)

end

/-! ### Directives -/

/-- The handles that need no directive. -/
def defaultHandles : List (String × String) :=
  [("!", "!"), ("!!", tagDomain)]

/-- The directives in front of a document; `ahead` bounds their number. -/
def directives (ahead : List Token) (versionSeen : Bool) : NodeReader Unit := do
  match ahead with
  | [] => return
  | _ :: ahead =>
    match ← peek with
    | .directive d =>
      drop
      match d with
      | .version major _ =>
        if versionSeen then throw (.malformed "a version given twice")
        if major ≠ 1 then throw (.malformed "a version that is not known")
        directives ahead true
      | .handle name replacement =>
        if ((← get).handles.lookup name).isSome then throw (.malformed "a handle given twice")
        modify fun s => { s with handles := (name, replacement) :: s.handles }
        directives ahead versionSeen
      | .other => directives ahead versionSeen
    | _ => return

/-- Go past marks that end documents; `ahead` bounds their number. -/
def dropDocumentEnds (ahead : List Token) : NodeReader Unit := do
  match ahead with
  | [] => return
  | _ :: ahead => if ← accept .documentEnd then dropDocumentEnds ahead

/-- Does the token end an explicit document without content? -/
def endsDocument : Token → Bool
  | .directive _ | .documentStart | .documentEnd | .streamEnd => true
  | _ => false

/-- A document with a mark at its start. -/
def explicitDocument (fuel : Nat) : NodeReader (Option NodeId) := do
  dropDocumentEnds (← get).tokens
  if (← peek) = .streamEnd then return none
  directives (← get).tokens false
  modify fun s => { s with handles := s.handles ++ defaultHandles }
  expect .documentStart "a document without a mark at its start"
  if endsDocument (← peek) then return some (← emptyScalar)
  return some (← node fuel true false)

/-- The end of a text behind its only document. What stands there instead is read up to the mark of
another document. -/
def textEnd : NodeReader Unit := do
  dropDocumentEnds (← get).tokens
  if (← peek) = .streamEnd then return
  modify fun s => { s with handles := [] }
  directives (← get).tokens false
  expect .documentStart "a document without a mark at its start"
  throw (.malformed "more than one document")

/-- The only document of a text, if there is one. -/
def document (fuel : Nat) : NodeReader (Option NodeId) := do
  let root ← match ← peek with
    | .directive _ | .documentStart | .streamEnd => explicitDocument fuel
    | _ =>
      modify fun s => { s with handles := defaultHandles }
      some <$> node fuel true false
  textEnd
  return root

end NodeReader

/-- The nodes of a text, and its root if it holds a document. -/
def nodesOfText (cs : List Char) : Except Error (Option NodeId × Nodes) := do
  let tokens := Tokens.ofText cs
  let start : NodeState :=
    ⟨tokens.list, tokens.failure.getD (.malformed "a text that does not end"), [], [], #[]⟩
  let (root, final) ← (NodeReader.document (4 * tokens.list.length + 4)).run start
  return (root, final.nodes)

end ApiBridge.Yaml
