import ApiBridge.Text.Integer
import ApiBridge.Text.Quoted
import ApiBridge.Value.Basic

/-!
# Texts of values

Messages and rendered files show values in two ways: `Value.quoted` shows texts in quotes, and
`Value.display` is the same but for a text or a date, which is shown bare. Both are meant for values
that are writable: an integer with very many digits is not.
-/

namespace ApiBridge

namespace Scalar

/-- A scalar as part of a larger value. -/
def quoted : Scalar → String
  | .null => "None"
  | .bool b => if b then "True" else "False"
  | .int n => toString n
  | .float x => x.text .plain
  | .text s => Text.quoted s
  | .date d => d.quoted
  | .moment t => t.quoted
  | .bytes bs => Text.quotedBytes bs

/-- A scalar on its own. -/
def display : Scalar → String
  | .text s => s
  | .date d => d.text
  | .moment t => t.text
  | s => s.quoted

@[simp] theorem display_text (s : String) : (Scalar.text s).display = s := rfl

/-- Has a scalar a text? An integer with too many digits has none. -/
def isWritable : Scalar → Bool
  | .int n => Text.isWritable n
  | _ => true

@[simp] theorem isWritable_text (s : String) : (Scalar.text s).isWritable = true := rfl

end Scalar

/-- Why a value has no text, or values have none together. -/
inductive TextError
  /-- An integer has too many digits. -/
  | integerTooLong
  /-- Of values that are to be joined, the one at a place is no text. -/
  | notText (place : Nat) (kindName : String)
  deriving DecidableEq, Repr

/-- The report of a text that is not there. -/
def TextError.message : TextError → String
  | .integerTooLong => Text.tooLongForText
  | .notText place kindName =>
    s!"sequence item {place}: expected str instance, {kindName} found"

/-- The text of a scalar, if it is writable. -/
def Scalar.written (s : Scalar) : Except TextError String :=
  if s.isWritable then .ok s.display else .error .integerTooLong

@[simp] theorem Scalar.written_text (s : String) : (Scalar.text s).written = .ok s := rfl

namespace Value

mutual

/-- A value as part of a larger value. -/
def quoted : Value → String
  | .scalar s => s.quoted
  | .list items => "[" ++ ", ".intercalate (quotedItems items) ++ "]"
  | .map entries => "\x7b" ++ ", ".intercalate (quotedEntries entries) ++ "\x7d"
  | .set [] => "set()"
  | .set members => "\x7b" ++ ", ".intercalate (members.map Scalar.quoted) ++ "\x7d"
  | .pair a b => "(" ++ a.quoted ++ ", " ++ b.quoted ++ ")"
  | .again isMap => if isMap then "\x7b...\x7d" else "[...]"

/-- The items of a list, each quoted. -/
def quotedItems : List Value → List String
  | [] => []
  | v :: vs => v.quoted :: quotedItems vs

/-- The entries of a map, each as key and value. -/
def quotedEntries : List (Scalar × Value) → List String
  | [] => []
  | (k, v) :: es => (k.quoted ++ ": " ++ v.quoted) :: quotedEntries es

end

/-- A value on its own. -/
def display : Value → String
  | .scalar s => s.display
  | v => v.quoted

@[simp] theorem display_text (s : String) : (Value.text s).display = s := rfl

mutual

/-- Has a value a text? All scalars in it must have one. -/
def isWritable : Value → Bool
  | .scalar s => s.isWritable
  | .list items => areWritable items
  | .map entries => entriesWritable entries
  | .set members => members.all Scalar.isWritable
  | .pair a b => a.isWritable && b.isWritable
  | .again _ => true

def areWritable : List Value → Bool
  | [] => true
  | v :: vs => v.isWritable && areWritable vs

def entriesWritable : List (Scalar × Value) → Bool
  | [] => true
  | (k, v) :: es => k.isWritable && v.isWritable && entriesWritable es

end

@[simp] theorem isWritable_textValue (s : String) : (Value.text s).isWritable = true := rfl

/-- The text of a value, if it is writable. -/
def written (v : Value) : Except TextError String :=
  if v.isWritable then .ok v.display else .error .integerTooLong

/-- The text of a value as part of a larger one, if it is writable. -/
def writtenQuoted (v : Value) : Except TextError String :=
  if v.isWritable then .ok v.quoted else .error .integerTooLong

/-! ### Joining -/

/-- The texts of values, or the first value that is no text; `place` counts those before. -/
def allTexts (place : Nat) : List Value → Except TextError (List String)
  | [] => .ok []
  | .scalar (.text s) :: vs => (s :: ·) <$> allTexts (place + 1) vs
  | v :: _ => .error (.notText place v.kindName)

example : (Value.list [.text "a", .int 1, .null]).display = "['a', 1, None]" := by decide +kernel
example : (Value.map [(.int 1, .text "it's")]).quoted = "\x7b1: \"it's\"\x7d" := by decide +kernel

end Value

end ApiBridge
