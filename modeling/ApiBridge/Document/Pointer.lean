import ApiBridge.Document.Graph
import ApiBridge.Text.Integer

/-!
# Pointers

A pointer `#/a/0` leads from the root of a document to a node: through the keys of maps and the
indexes of lists. In a segment, `~1` stands for a slash and `~0` for a tilde. An index may be
written in any way an integer can be, and a negative one counts from the end.
-/

namespace ApiBridge

/-- Why a reference does not lead to a node. -/
inductive ReferenceError
  /-- The document is no map. -/
  | rootNotMap (kind : String)
  /-- What stands for the target is no text. -/
  | notText (shown : String)
  /-- The target is outside of the document. -/
  | external (target : String)
  | missingKey (target key : String)
  | badIndex (target segment : String)
  | notContainer (target kind : String)
  /-- The targets refer to each other. -/
  | circular (chain : List String)
  /-- What stands for the target has no text. -/
  | unwritable (e : TextError)
  deriving DecidableEq, Repr

/-- The report of a failed reference. -/
def ReferenceError.message : ReferenceError → String
  | .rootNotMap kind => s!"'{kind}' object has no attribute 'get'"
  | .notText shown => s!"Invalid $ref value: {shown}"
  | .external target =>
    s!"External $ref not supported: {target}. Only internal references (#/...) are resolved."
  | .missingKey target key => s!"Cannot resolve $ref '{target}': key '{key}' not found"
  | .badIndex target segment =>
    s!"Cannot resolve $ref '{target}': invalid array index '{segment}'"
  | .notContainer target kind => s!"Cannot resolve $ref '{target}': cannot navigate into {kind}"
  | .circular chain => "Circular $ref chain: " ++ " -> ".intercalate chain
  | .unwritable e => e.message

/-- Is the error reported as one of references? -/
def ReferenceError.isReported : ReferenceError → Bool
  | .rootNotMap _ | .unwritable _ => false
  | _ => true

namespace Pointer

/-! ### Segments -/

/-- The text that an escaped segment stands for. -/
def unescape : List Char → List Char
  | '~' :: '1' :: cs => '/' :: unescape cs
  | '~' :: '0' :: cs => '~' :: unescape cs
  | c :: cs => c :: unescape cs
  | [] => []

/-- A text as an escaped segment. -/
def escape : List Char → List Char
  | [] => []
  | c :: cs =>
    if c = '~' then '~' :: '0' :: escape cs
    else if c = '/' then '~' :: '1' :: escape cs
    else c :: escape cs

theorem unescape_escape (cs : List Char) : unescape (escape cs) = cs := by
  induction cs with
  | nil => rfl
  | cons c cs ih =>
    by_cases h : c = '~'
    · simp [escape, h, unescape, ih]
    · by_cases h' : c = '/'
      · simp [escape, h', unescape, ih]
      · simp [escape, h, h', unescape, ih]

/-- The segments of a pointer into the document. -/
def segments? (target : String) : Option (List String) :=
  match target.toList with
  | '#' :: '/' :: cs => some ((cs.splitOn '/').map fun s => String.ofList (unescape s))
  | _ => none

/-! ### Steps -/

/-- The item at an index, which may count from the end. -/
def itemAt? (items : List NodeId) (index : Int) : Option NodeId :=
  if 0 ≤ index then items[index.toNat]?
  else if index.natAbs ≤ items.length then items[items.length - index.natAbs]?
  else none

/-- One step from a node, for the pointer `target`. -/
def step (g : Graph) (target : String) (i : NodeId) (segment : String) :
    Except ReferenceError NodeId :=
  match g.node i with
  | .map entries =>
    match lookupKey (.text segment) entries with
    | some j => .ok j
    | none => .error (.missingKey target segment)
  | .list items =>
    match (Text.readInteger? 10 segment.toList).bind (itemAt? items) with
    | some j => .ok j
    | none => .error (.badIndex target segment)
  | n => .error (.notContainer target n.kindName)

end Pointer

/-- The node that a pointer leads to. -/
def Document.locate (d : Document) (target : String) : Except ReferenceError NodeId :=
  match Pointer.segments? target with
  | none => .error (.external target)
  | some segments => segments.foldlM (Pointer.step d.graph target) d.root

end ApiBridge
