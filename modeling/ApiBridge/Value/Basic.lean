import ApiBridge.Binary64.Layout
import ApiBridge.Calendar.Basic

/-!
# Values of documents

What a description document holds: scalars, lists, maps with their entries in order, sets and
pairs. A value is a tree; where a document contains itself, the tree ends in `Value.again`.
-/

namespace ApiBridge

/-! ### Scalars -/

/-- A value with no parts. Only scalars are keys of a map. -/
inductive Scalar
  | null
  | bool (b : Bool)
  | int (n : Int)
  | float (x : Binary64)
  | text (s : String)
  | date (d : Date)
  | moment (t : Moment)
  | bytes (bs : List UInt8)
  deriving DecidableEq, Repr, Inhabited

namespace Scalar

/-- The integer that a number or a truth value equals, if it is one. -/
def whole? : Scalar → Option Int
  | .bool b => some (if b then 1 else 0)
  | .int n => some n
  | .float x => x.toInt?
  | _ => none

/-- Are two scalars the same key? Numbers are compared as numbers, also with truth values. -/
def same (a b : Scalar) : Bool :=
  match a, b with
  | .float x, .float y => x.same y
  | .moment s, .moment t => s.same t
  | a, b =>
    match a.whole?, b.whole? with
    | some m, some n => m == n
    | _, _ => a == b

/-- Is the scalar counted as true? -/
def isTruthy : Scalar → Bool
  | .null => false
  | .bool b => b
  | .int n => n != 0
  | .float x => !x.isZero
  | .text s => s != ""
  | .date _ => true
  | .moment _ => true
  | .bytes bs => !bs.isEmpty

/-- The word for the kind of a scalar. -/
def kindName : Scalar → String
  | .null => "NoneType"
  | .bool _ => "bool"
  | .int _ => "int"
  | .float _ => "float"
  | .text _ => "str"
  | .date _ => "date"
  | .moment _ => "datetime"
  | .bytes _ => "bytes"

end Scalar

/-! ### Entries in order -/

/-- The value of the entry with the given key. -/
def lookupKey {α : Type} (key : Scalar) (entries : List (Scalar × α)) : Option α :=
  (entries.find? fun e => e.1.same key).map (·.2)

/-- Set the value of a key: an entry that is there keeps its key and its place. -/
def insertKey {α : Type} (key : Scalar) (value : α) :
    List (Scalar × α) → List (Scalar × α)
  | [] => [(key, value)]
  | e :: es => if e.1.same key then (e.1, value) :: es else e :: insertKey key value es

/-- The entries with those of the same key merged: the first place, the last value. -/
def mergeKeys {α : Type} (entries : List (Scalar × α)) : List (Scalar × α) :=
  entries.foldl (fun done e => insertKey e.1 e.2 done) []

/-- Set the value of a name: an entry that is there keeps its place. -/
def insertName {α : Type} (name : String) (value : α) :
    List (String × α) → List (String × α)
  | [] => [(name, value)]
  | e :: es => if e.1 = name then (name, value) :: es else e :: insertName name value es

@[simp] theorem insertName_nil {α : Type} (name : String) (value : α) :
    insertName name value [] = [(name, value)] := rfl

theorem lookup_insertName {α : Type} (name : String) (value : α) (es : List (String × α)) :
    (insertName name value es).lookup name = some value := by
  induction es with
  | nil => simp
  | cons e es ih =>
    obtain ⟨k, v⟩ := e
    by_cases h : k = name
    · simp [insertName, h]
    · simp [insertName, h, List.lookup_cons, ih, beq_eq_false_iff_ne.2 (Ne.symm h)]

/-! ### Values -/

/-- A value of a document. -/
inductive Value
  | scalar (s : Scalar)
  | list (items : List Value)
  | map (entries : List (Scalar × Value))
  | set (members : List Scalar)
  | pair (first second : Value)
  /-- The place where a list or a map is met again inside itself. -/
  | again (isMap : Bool)
  deriving Repr, Inhabited

namespace Value

abbrev null : Value := .scalar .null
abbrev bool (b : Bool) : Value := .scalar (.bool b)
abbrev int (n : Int) : Value := .scalar (.int n)
abbrev text (s : String) : Value := .scalar (.text s)

/-- The map with the given names as keys. -/
def ofFields (fields : List (String × Value)) : Value :=
  .map (fields.map fun f => (.text f.1, f.2))

/-- The entries of a map. -/
def entries? : Value → Option (List (Scalar × Value))
  | .map entries => some entries
  | _ => none

/-- The items of a list. -/
def items? : Value → Option (List Value)
  | .list items => some items
  | _ => none

/-- The text of a text. -/
def text? : Value → Option String
  | .scalar (.text s) => some s
  | _ => none

/-- The value under a name, where there is a map with that name as a key. -/
def field? (name : String) : Value → Option Value
  | .map entries => lookupKey (.text name) entries
  | _ => none

def isMap : Value → Bool
  | .map _ => true
  | .again isMap => isMap
  | _ => false

/-- Is the value counted as true? Containers are when they hold something. -/
def isTruthy : Value → Bool
  | .scalar s => s.isTruthy
  | .list items => !items.isEmpty
  | .map entries => !entries.isEmpty
  | .set members => !members.isEmpty
  | .pair _ _ => true
  | .again _ => true

/-- The parts that a value is made of, one after another, if it has parts: the items of a list, the
keys of a map, the characters of a text, the numbers of bytes. -/
def elements? : Value → Option (List Value)
  | .scalar (.text s) => some (s.toList.map fun c => text (String.ofList [c]))
  | .scalar (.bytes bs) => some (bs.map fun b => int b.toNat)
  | .scalar _ => none
  | .list items => some items
  | .map entries => some (entries.map fun e => .scalar e.1)
  | .set members => some (members.map .scalar)
  | .pair a b => some [a, b]
  | .again _ => some []

/-- The scalar that a value is, if it is one. -/
def scalar? : Value → Option Scalar
  | .scalar s => some s
  | _ => none

/-- The word for the kind of a value. -/
def kindName : Value → String
  | .scalar s => s.kindName
  | .list _ => "list"
  | .map _ => "dict"
  | .set _ => "set"
  | .pair _ _ => "tuple"
  | .again isMap => if isMap then "dict" else "list"

end Value

end ApiBridge
