import ApiBridge.Charset.Label
import ApiBridge.Text.Blank
import ApiBridge.Text.Integer
import ApiBridge.Text.Lowercase
import ApiBridge.Text.Quoted

/-!
# Content types

A server says with one line of text what its answer is written in: a media type and parameters with
semicolons between them. One parameter names the charset. Its value may be in quotes, cut into
numbered pieces, or written with percent signs, a charset and a language in front of it.
-/

namespace ApiBridge.ContentType

/-- Why an answer has no text. -/
inductive Error
  /-- The label of a charset holds a null character. -/
  | nullInLabel
  /-- The number of a piece has too many digits. -/
  | tooManyDigits (count : Nat)
  /-- Some pieces of a value are numbered, and others are not. -/
  | mixedPieces (firstIsNumbered : Bool)
  | noText (e : Charset.Error)
  deriving DecidableEq, Repr

/-- The report of an answer that has no text. -/
def Error.message : Error → String
  | .nullInLabel => "embedded null character"
  | .tooManyDigits count => Text.tooManyDigits count
  | .mixedPieces firstIsNumbered =>
    let (later, first) := if firstIsNumbered then ("NoneType", "int") else ("int", "NoneType")
    s!"'<' not supported between instances of '{later}' and '{first}'"
  | .noText e => e.message

/-- The characters without the white space at both ends. -/
def trim (cs : List Char) : List Char :=
  ((cs.dropWhile Text.isBlank).reverse.dropWhile Text.isBlank).reverse

/-! ### Parameters -/

/-- A parameter as it is given: a name and a text. -/
abbrev Parameter := String × String

/-- The parts of a line between semicolons. A semicolon in quotes ends no part, and a quote after a
backslash is none; `part` is the part so far, in reverse. -/
def partsFrom (part : List Char) (quoted : Bool) : List Char → List (List Char)
  | [] => [part.reverse]
  | '\\' :: '"' :: cs => partsFrom ('"' :: '\\' :: part) quoted cs
  | c :: cs =>
    if c = ';' && !quoted then part.reverse :: partsFrom [] false cs
    else partsFrom (c :: part) (if c = '"' then !quoted else quoted) cs

/-- The characters with one of each two backslashes. -/
def mergeBackslashes : List Char → List Char
  | '\\' :: '\\' :: cs => '\\' :: mergeBackslashes cs
  | c :: cs => c :: mergeBackslashes cs
  | [] => []

/-- The characters with no backslash in front of a quote. -/
def bareQuotes : List Char → List Char
  | '\\' :: '"' :: cs => '"' :: bareQuotes cs
  | c :: cs => c :: bareQuotes cs
  | [] => []

/-- The text without quotes or angle brackets around it. In quotes, two backslashes are one, and
after that a backslash may stand in front of a quote. -/
def unquote (cs : List Char) : List Char :=
  let inner := cs.tail.dropLast
  if 1 < cs.length && cs.head? = some '"' && cs.getLast? = some '"' then
    bareQuotes (mergeBackslashes inner)
  else if 1 < cs.length && cs.head? = some '<' && cs.getLast? = some '>' then inner
  else cs

/-- The parameter in a part. A name alone is left as it is, and its text is empty. -/
def parameterOf (part : List Char) : Parameter :=
  let name := String.ofList (trim (part.takeWhile (· ≠ '=')))
  match part.dropWhile (· ≠ '=') with
  | [] => (name, "")
  | _ :: text => (Text.lower name, String.ofList (unquote (trim text)))

/-- All parts of a line as parameters; the first one is the media type. -/
def parametersOf (line : String) : List Parameter :=
  (partsFrom [] false line.toList).map parameterOf

/-! ### Pieces -/

/-- A piece of the value with a name: its number, if it has one, and whether it has percent signs. -/
structure Piece where
  name : String
  number : Option Nat
  text : String
  encoded : Bool
  deriving DecidableEq, Repr

/-- May the character be in the name of a value that is cut into pieces? -/
def isNameChar (c : Char) : Bool :=
  c.isAlphanum || c = '_'

/-- The piece that a parameter gives, if it is one: an asterisk stands behind the name of the value,
the number may follow, and one more asterisk tells that there are percent signs. -/
def pieceOf? (p : Parameter) : Except Error (Option Piece) :=
  match p.1.splitOn "*" with
  | [name, ""] => .ok (if isName name then some ⟨name, none, p.2, true⟩ else none)
  | [name, digits] => numbered name digits false
  | [name, digits, ""] => numbered name digits true
  | _ => .ok none
where
  isName (name : String) : Bool := !name.isEmpty && name.toList.all isNameChar
  numbered (name digits : String) (encoded : Bool) : Except Error (Option Piece) :=
    if !isName name || digits.isEmpty || !digits.toList.all Char.isDigit then .ok none
    else if Text.decimalDigitLimit < digits.length then .error (.tooManyDigits digits.length)
    else .ok (some ⟨name, digits.toNat?, p.2, encoded⟩)

/-- Does a piece stand in front of another one? Pieces go by their numbers, and those with the same
number by their texts. -/
def Piece.precedes (a b : Piece) : Bool :=
  let (m, n) := (a.number.getD 0, b.number.getD 0)
  m < n || (m = n && (a.text < b.text || (a.text = b.text && (!a.encoded || b.encoded))))

/-- The characters that percent signs stand for, one for each byte. -/
def percentDecoded : List Char → List Char
  | '%' :: a :: b :: cs =>
    match Charset.hexValue? a, Charset.hexValue? b with
    | some x, some y => Char.ofNat (x * 16 + y) :: percentDecoded cs
    | _, _ => '%' :: percentDecoded (a :: b :: cs)
  | c :: cs => c :: percentDecoded cs
  | [] => []
termination_by cs => cs.length

/-- The characters of a piece. -/
def Piece.characters (p : Piece) : List Char :=
  if p.encoded then percentDecoded p.text.toList else p.text.toList

/-! ### Values -/

/-- The value of a parameter. -/
inductive ParameterValue
  | plain (text : String)
  /-- Characters for bytes in the charset with a label; an empty label is the one of ASCII. -/
  | encoded (label : String) (bytes : List Char)
  deriving DecidableEq, Repr

/-- The value of pieces. If one of them has percent signs, a charset and a language may stand in
front of the value, with an apostrophe after each of them. -/
def joinedPieces (pieces : List Piece) : Except Error ParameterValue :=
  let firstIsNumbered := pieces.head?.any (·.number.isSome)
  if pieces.any (·.number.isSome ≠ firstIsNumbered) then .error (.mixedPieces firstIsNumbered)
  else
    let joined := (pieces.mergeSort Piece.precedes).flatMap Piece.characters
    if !pieces.any (·.encoded) then .ok (.plain (String.ofList joined))
    else
      match joined.splitOn '\'' with
      | label :: _ :: rest :: more =>
        .ok (.encoded (String.ofList label) (List.intercalate ['\''] (rest :: more)))
      | _ => .ok (.encoded "" joined)

/-- All values that a line gives by name: those that are whole, then those in pieces. -/
def valuesOf (line : String) : Except Error (List (String × ParameterValue)) := do
  let ps := parametersOf line
  let further ← ps.tail.mapM fun p => return (p, ← pieceOf? p)
  let whole := ps.take 1 ++ (further.filter (·.2.isNone)).map (·.1)
  let pieces := further.filterMap (·.2)
  let joined ← (pieces.map (·.name)).eraseDups.mapM fun name =>
    return (name, ← joinedPieces (pieces.filter (·.name = name)))
  return whole.map (fun (name, text) => (name, .plain text)) ++ joined

/-- The bytes of a character in a value. What is no byte itself is told by its code. -/
def bytesOfChar (c : Char) : List UInt8 :=
  let told (letter : Char) (width : Nat) : List UInt8 :=
    ('\\' :: letter :: Text.hex width c.toNat).map (·.toNat.toUInt8)
  if c.toNat < 0x100 then [c.toNat.toUInt8]
  else if c.toNat < 0x10000 then told 'u' 4
  else told 'U' 8

/-- The text of a value. Bytes that are no text in their charset are left as they are. -/
def ParameterValue.text : ParameterValue → Except Error String
  | .plain text => .ok text
  | .encoded label bytes =>
    if label.toList.contains '\x00' then .error .nullInLabel
    else
      let asGiven := String.ofList bytes
      match Charset.ofLabel? (Text.lower (if label.isEmpty then "us-ascii" else label)) with
      | none => .ok asGiven
      | some c => do
        let text? ← (c.decodeWhole? (bytes.flatMap bytesOfChar)).mapError .noText
        return text?.getD asGiven

/-! ### Charset -/

/-- The label of the charset; a label has ASCII characters only. -/
def charsetLabel? (line : String) : Except Error (Option String) := do
  match (← valuesOf line).find? fun (name, _) => Text.lower name = "charset" with
  | none => return none
  | some (_, value) =>
    let label ← value.text
    return if label.toList.all (·.toNat < 0x80) then some (Text.lower label) else none

/-- The charset of an answer: UTF-8 if none is given or what is given is not known. -/
def charset (line : String) : Except Error Charset := do
  match ← charsetLabel? line with
  | none => return .utf8 false
  | some label =>
    if label.toList.contains '\x00' then throw .nullInLabel
    return (Charset.ofLabel? label).getD (.utf8 false)

/-- The text of an answer with a content type. -/
def textOf (line : String) (body : List UInt8) : Except Error String :=
  if body.isEmpty then .ok "" else do ((← charset line).decode body).mapError .noText

end ApiBridge.ContentType
