import ApiBridge.Text.Quoted
import ApiBridge.Value.Text

/-!
# Writing JSON

A style fixes which characters are escaped and whether the parts of a value stand on lines of their
own. Values that JSON does not know, such as dates, are written as strings.
-/

namespace ApiBridge.Json

/-- The choices of a writer. -/
structure Style where
  /-- Is every character beyond ASCII escaped? -/
  asciiOnly : Bool
  /-- Are the characters escaped that have a meaning in a page or a script? -/
  scriptSafe : Bool
  /-- Does every item and entry stand on a line of its own, indented by two blanks a level? -/
  indented : Bool
  deriving DecidableEq, Repr

namespace Style

/-- One line of plain text. -/
def compact : Style := ⟨false, false, false⟩

/-- One line that is safe inside a script. -/
def script : Style := ⟨true, true, false⟩

/-- Several lines, for people to read. -/
def pretty : Style := ⟨false, false, true⟩

end Style

/-! ### Strings -/

/-- The escape of a code below `0x10000`. -/
def codeEscape (n : Nat) : List Char :=
  '\\' :: 'u' :: Text.hex 4 n

/-- The escape of a character, as one code or as two surrogates. -/
def charEscape (c : Char) : List Char :=
  if c.toNat < 0x10000 then codeEscape c.toNat
  else
    let n := c.toNat - 0x10000
    codeEscape (0xd800 + n / 0x400) ++ codeEscape (0xdc00 + n % 0x400)

/-- Does the character have a meaning in a page or a script? -/
def isScriptMark (c : Char) : Bool :=
  c = '<' || c = '>' || c = '&' || c = '\x27'

/-- A character inside a string. -/
def writtenChar (style : Style) (c : Char) : List Char :=
  match c with
  | '"' => ['\\', '"']
  | '\\' => ['\\', '\\']
  | '\n' => ['\\', 'n']
  | '\r' => ['\\', 'r']
  | '\t' => ['\\', 't']
  | '\x08' => ['\\', 'b']
  | '\x0c' => ['\\', 'f']
  | c =>
    if c.val < 0x20 || (style.asciiOnly && 0x7f ≤ c.val) || (style.scriptSafe && isScriptMark c) then
      charEscape c
    else [c]

/-- A string in double quotes. -/
def writeString (style : Style) (s : String) : String :=
  String.ofList ('"' :: s.toList.flatMap (writtenChar style) ++ ['"'])

/-! ### Values -/

/-- A scalar as a value. -/
def writeScalar (style : Style) : Scalar → String
  | .null => "null"
  | .bool b => if b then "true" else "false"
  | .int n => toString n
  | .float x => x.text .json
  | s => writeString style s.display

/-- A scalar as the name of an entry. -/
def writeKey (style : Style) : Scalar → String
  | .text s => writeString style s
  | k => writeString style (writeScalar style k)

/-- Parts between an opening and a closing mark. -/
def bracket (style : Style) (level : Nat) (opening closing : String) (parts : List String) :
    String :=
  if parts.isEmpty then opening ++ closing
  else if style.indented then
    let line (level : Nat) := "\n" ++ String.ofList (List.replicate (2 * level) ' ')
    opening ++ line (level + 1) ++ ("," ++ line (level + 1)).intercalate parts ++ line level
      ++ closing
  else opening ++ ", ".intercalate parts ++ closing

mutual

/-- A value nested `level` deep. -/
def writeAt (style : Style) (level : Nat) : Value → String
  | .scalar s => writeScalar style s
  | .list items => bracket style level "[" "]" (writeItems style (level + 1) items)
  | .map entries => bracket style level "\x7b" "\x7d" (writeEntries style (level + 1) entries)
  | .pair a b =>
    bracket style level "[" "]" [writeAt style (level + 1) a, writeAt style (level + 1) b]
  | v => writeString style v.display

def writeItems (style : Style) (level : Nat) : List Value → List String
  | [] => []
  | v :: vs => writeAt style level v :: writeItems style level vs

def writeEntries (style : Style) (level : Nat) : List (Scalar × Value) → List String
  | [] => []
  | (k, v) :: es =>
    (writeKey style k ++ ": " ++ writeAt style level v) :: writeEntries style level es

end

/-- A value as JSON. -/
def write (style : Style) (v : Value) : String :=
  writeAt style 0 v

/-! ### Names -/

/-- Is the scalar written as a name without losing what it is? -/
def isName : Scalar → Bool
  | .null | .bool _ | .int _ | .float _ | .text _ => true
  | _ => false

mutual

/-- The first key of a map inside a value that is no name. -/
def badKey? : Value → Option Scalar
  | .list items => badKeyOfItems? items
  | .map entries => badKeyOfEntries? entries
  | .pair a b => (badKey? a).or (badKey? b)
  | _ => none

def badKeyOfItems? : List Value → Option Scalar
  | [] => none
  | v :: vs => (badKey? v).or (badKeyOfItems? vs)

def badKeyOfEntries? : List (Scalar × Value) → Option Scalar
  | [] => none
  | (k, v) :: es => if isName k then (badKey? v).or (badKeyOfEntries? es) else some k

end

end ApiBridge.Json
