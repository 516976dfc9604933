import ApiBridge.Value.Basic

/-!
# Type expressions

The types that describe the values of an API. `TypeExpr` has one constructor for each shape, and
`TypeForm` is the open form in which expressions are exchanged: a node with a kind and any parts.
-/

namespace ApiBridge

/-- A member of a record. -/
structure Property (τ : Type) where
  name : String
  optional : Bool
  type : τ
  deriving Repr, Inhabited

/-- A type expression. -/
inductive TypeExpr
  | any
  | string
  | number
  | boolean
  /-- One of the listed values. -/
  | literals (values : List Value)
  /-- A list of anything. -/
  | anySequence
  /-- A list of items of one type. -/
  | sequence (item : TypeExpr)
  /-- Any values under any names. -/
  | mapping
  /-- Values under the names of the properties. -/
  | record (properties : List (Property TypeExpr))
  /-- The type declared under a name. -/
  | reference (name : String)
  deriving Repr, Inhabited

/-- The shape of a type expression. -/
inductive TypeKind
  | any
  | string
  | number
  | boolean
  | literals
  | sequence
  | mapping
  | record
  | reference
  deriving DecidableEq, Repr, Inhabited

namespace TypeKind

def name : TypeKind → String
  | .any => "any"
  | .string => "string"
  | .number => "number"
  | .boolean => "boolean"
  | .literals => "literals"
  | .sequence => "sequence"
  | .mapping => "mapping"
  | .record => "record"
  | .reference => "reference"

def all : List TypeKind :=
  [.any, .string, .number, .boolean, .literals, .sequence, .mapping, .record, .reference]

end TypeKind

namespace TypeExpr

def kind : TypeExpr → TypeKind
  | .any => .any
  | .string => .string
  | .number => .number
  | .boolean => .boolean
  | .literals _ => .literals
  | .anySequence => .sequence
  | .sequence _ => .sequence
  | .mapping => .mapping
  | .record _ => .record
  | .reference _ => .reference

/-- Is the expression a record? -/
def isRecord : TypeExpr → Bool
  | .record _ => true
  | _ => false

end TypeExpr

/-! ### The open form -/

/-- A node of an expression with all parts that a node may have. Which of them count depends on
the kind. -/
inductive TypeForm
  | node (kind : TypeKind) (name : Option String) (literals : List Value)
      (item : Option TypeForm) (properties : List (Property TypeForm))
  deriving Repr, Inhabited

namespace TypeForm

def kind : TypeForm → TypeKind
  | .node kind _ _ _ _ => kind

def name : TypeForm → Option String
  | .node _ name _ _ _ => name

def literals : TypeForm → List Value
  | .node _ _ literals _ _ => literals

def item : TypeForm → Option TypeForm
  | .node _ _ _ item _ => item

def properties : TypeForm → List (Property TypeForm)
  | .node _ _ _ _ properties => properties

mutual

/-- The expression of a node: the parts that count for its kind. -/
def toExpr : TypeForm → TypeExpr
  | .node .any _ _ _ _ => .any
  | .node .string _ _ _ _ => .string
  | .node .number _ _ _ _ => .number
  | .node .boolean _ _ _ _ => .boolean
  | .node .literals _ values _ _ => .literals values
  | .node .sequence _ _ none _ => .anySequence
  | .node .sequence _ _ (some item) _ => .sequence item.toExpr
  | .node .mapping _ _ _ _ => .mapping
  | .node .record _ _ _ properties => .record (toExprs properties)
  | .node .reference name _ _ _ => .reference (name.getD "")

def toExprs : List (Property TypeForm) → List (Property TypeExpr)
  | [] => []
  | ⟨name, optional, type⟩ :: ps => ⟨name, optional, type.toExpr⟩ :: toExprs ps

end

mutual

/-- The number of nodes. -/
def size : TypeForm → Nat
  | .node _ _ _ none properties => sizes properties + 1
  | .node _ _ _ (some item) properties => item.size + sizes properties + 1

def sizes : List (Property TypeForm) → Nat
  | [] => 0
  | ⟨_, _, type⟩ :: ps => type.size + sizes ps

end

end TypeForm

namespace TypeExpr

mutual

/-- The open form of an expression. -/
def toForm : TypeExpr → TypeForm
  | .literals values => .node .literals none values none []
  | .sequence item => .node .sequence none [] (some item.toForm) []
  | .record properties => .node .record none [] none (toForms properties)
  | .reference name => .node .reference (some name) [] none []
  | e => .node e.kind none [] none []

def toForms : List (Property TypeExpr) → List (Property TypeForm)
  | [] => []
  | ⟨name, optional, type⟩ :: ps => ⟨name, optional, type.toForm⟩ :: toForms ps

end

end TypeExpr

end ApiBridge
