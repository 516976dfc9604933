import ApiBridge.Value.Basic

/-!
# Layers of values

A value can be looked at one layer at a time: as a scalar, or as a container of parts that are again
looked at one layer at a time. This way also what contains itself can be looked at. A `Value` is one
thing that has layers, and a part of a document is another.
-/

namespace ApiBridge

/-- One layer of a value, with parts of some kind. -/
inductive Layer (α : Type)
  | scalar (s : Scalar)
  | list (items : List α)
  | map (entries : List (Scalar × α))
  | set (members : List Scalar)
  | pair (first second : α)
  deriving DecidableEq, Repr

namespace Layer

variable {α β : Type}

instance : Inhabited (Layer α) := ⟨.scalar .null⟩

/-- The same layer with other parts. -/
def mapParts (f : α → β) : Layer α → Layer β
  | .scalar s => .scalar s
  | .list items => .list (items.map f)
  | .map entries => .map (entries.map fun e => (e.1, f e.2))
  | .set members => .set members
  | .pair a b => .pair (f a) (f b)

/-- The word for the kind of a layer. -/
def kindName : Layer α → String
  | .scalar s => s.kindName
  | .list _ => "list"
  | .map _ => "dict"
  | .set _ => "set"
  | .pair _ _ => "tuple"

/-- Is a value with this layer counted as true? Containers are when they hold something. -/
def isTruthy : Layer α → Bool
  | .scalar s => s.isTruthy
  | .list items => !items.isEmpty
  | .map entries => !entries.isEmpty
  | .set members => !members.isEmpty
  | .pair _ _ => true

/-- The entries of a map. -/
def entries? : Layer α → Option (List (Scalar × α))
  | .map entries => some entries
  | _ => none

/-- The items of a list. -/
def items? : Layer α → Option (List α)
  | .list items => some items
  | _ => none

/-- The text of a text. -/
def text? : Layer α → Option String
  | .scalar (.text s) => some s
  | _ => none

/-- The part under a name, where there is a map with that name as a key. -/
def field? (name : String) (l : Layer α) : Option α :=
  l.entries?.bind (lookupKey (.text name))

/-- The map with the given names as keys. -/
def ofFields (fields : List (String × α)) : Layer α :=
  .map (fields.map fun f => (.text f.1, f.2))

end Layer

/-- What can be looked at one layer at a time. -/
class Layered (α : Type) where
  layer : α → Layer α
  /-- All layers, down to where something is met again inside itself. -/
  value : α → Value

export Layered (layer)

/-- One layer of a value; where a container is met again, it is not looked into. -/
def Value.layer : Value → Layer Value
  | .scalar s => .scalar s
  | .list items => .list items
  | .map entries => .map entries
  | .set members => .set members
  | .pair a b => .pair a b
  | .again isMap => if isMap then .map [] else .list []

instance : Layered Value := ⟨Value.layer, id⟩

@[simp] theorem layer_value (v : Value) : layer v = v.layer := rfl

end ApiBridge
