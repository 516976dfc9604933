import ApiBridge.Json.Error
import ApiBridge.Value.Basic

/-!
# Reading JSON

A reader takes characters and gives a result with the characters that are left. It also accepts
the numbers `NaN`, `Infinity` and `-Infinity`. Entries keep their order, and of two entries with
the same name the first place and the last value count.
-/

namespace ApiBridge.Json

/-- A fault with the number of characters that are left where it is found. -/
inductive Stop
  | fault (f : Fault) (left : Nat)
  | tooManyDigits (count : Nat)
  deriving DecidableEq, Repr

/-- The failure at the start of `cs`. -/
def failAt {α : Type} (f : Fault) (cs : List Char) : Except Stop α :=
  .error (.fault f cs.length)

/-- Is the character blank between the tokens of a text? -/
def isSpace (c : Char) : Bool :=
  c = ' ' || c = '\n' || c = '\t' || c = '\r'

def skipSpace (cs : List Char) : List Char :=
  cs.dropWhile isSpace

/-! ### Strings -/

/-- The value of a hexadecimal digit. -/
def hexValue? (c : Char) : Option Nat :=
  if c.isDigit then some (c.toNat - 48)
  else if 'a' ≤ c && c ≤ 'f' then some (c.toNat - 87)
  else if 'A' ≤ c && c ≤ 'F' then some (c.toNat - 55)
  else none

/-- The number written by four hexadecimal digits. -/
def hexCode? (a b c d : Char) : Option Nat := do
  let a ← hexValue? a
  let b ← hexValue? b
  let c ← hexValue? c
  let d ← hexValue? d
  return ((a * 16 + b) * 16 + c) * 16 + d

def isHighSurrogate (n : Nat) : Bool := 0xd800 ≤ n && n ≤ 0xdbff

def isLowSurrogate (n : Nat) : Bool := 0xdc00 ≤ n && n ≤ 0xdfff

/-- The character that two surrogates stand for together. -/
def joinSurrogates (high low : Nat) : Char :=
  Char.ofNat (0x10000 + (high - 0xd800) * 0x400 + (low - 0xdc00))

/-- The character of a code. A surrogate on its own is no character, and is replaced: a text that
names one is not read as it is meant. -/
def charOfCode (n : Nat) : Char :=
  if isHighSurrogate n || isLowSurrogate n then '\ufffd' else Char.ofNat n

/-- The character that an escape of one letter stands for. -/
def shortEscape? : Char → Option Char
  | '"' => some '"'
  | '\\' => some '\\'
  | '/' => some '/'
  | 'b' => some '\x08'
  | 'f' => some '\x0c'
  | 'n' => some '\n'
  | 'r' => some '\r'
  | 't' => some '\t'
  | _ => none

/-- The character of an escape, after its backslash, with the characters left, which are fewer.
A code escape needs a character after its four digits, and `string` is what follows the opening
quote of the string. -/
def readEscape (string : List Char) :
    (cs : List Char) → Except Stop (Char × { rest : List Char // rest.length < cs.length })
  | 'u' :: a :: b :: c :: d :: '\\' :: 'u' :: e :: f :: g :: h :: next :: cs => do
    let some high := hexCode? a b c d | .error (.fault .badCodeEscape (cs.length + 12))
    if isHighSurrogate high then
      let some low := hexCode? e f g h | .error (.fault .badCodeEscape (cs.length + 6))
      if isLowSurrogate low then
        return (joinSurrogates high low, ⟨next :: cs, by simp⟩)
    return (charOfCode high, ⟨'\\' :: 'u' :: e :: f :: g :: h :: next :: cs, by simp⟩)
  | 'u' :: a :: b :: c :: d :: next :: cs => do
    let some code := hexCode? a b c d | .error (.fault .badCodeEscape (cs.length + 6))
    return (charOfCode code, ⟨next :: cs, by simp⟩)
  | 'u' :: cs => .error (.fault .badCodeEscape (cs.length + 1))
  | c :: cs =>
    match shortEscape? c with
    | some e => .ok (e, ⟨cs, by simp⟩)
    | none => .error (.fault .unknownEscape (cs.length + 2))
  | [] => .error (.fault .unterminatedString (string.length + 1))

/-- The characters of a string up to its closing quote. `string` is what follows the opening quote,
and `done` holds the characters read, in reverse. -/
def readString (string done : List Char) : List Char → Except Stop (String × List Char)
  | [] => .error (.fault .unterminatedString (string.length + 1))
  | '"' :: cs => .ok (String.ofList done.reverse, cs)
  | '\\' :: cs => do
    let (c, ⟨rest, _⟩) ← readEscape string cs
    readString string (c :: done) rest
  | c :: cs =>
    if c.val < 0x20 then .error (.fault .controlCharacter (cs.length + 1))
    else readString string (c :: done) cs
termination_by cs => cs.length

/-! ### Numbers -/

/-- The natural number written by decimal digits. -/
def natOfDigits (ds : List Char) : Nat :=
  ds.foldl (fun n c => n * 10 + (c.toNat - 48)) 0

/-- The most digits that an integer may have. -/
def digitLimit : Nat := 4300

/-- The digits after a point, where at least one follows it. -/
def fractionPart : List Char → List Char × List Char
  | '.' :: c :: cs =>
    if c.isDigit then ((c :: cs).takeWhile Char.isDigit, (c :: cs).dropWhile Char.isDigit)
    else ([], '.' :: c :: cs)
  | cs => ([], cs)

/-- The exponent after its letter, where it has a digit. -/
def exponentPart (cs : List Char) : Option (Int × List Char) :=
  match cs with
  | e :: rest =>
    if e = 'e' ∨ e = 'E' then
      let (negative, rest) := match rest with
        | '-' :: rest => (true, rest)
        | '+' :: rest => (false, rest)
        | rest => (false, rest)
      let ds := rest.takeWhile Char.isDigit
      if ds.isEmpty then none
      else
        let n : Int := natOfDigits ds
        some (if negative then -n else n, rest.dropWhile Char.isDigit)
    else none
  | [] => none

/-- A number without its sign; a point or an exponent makes it a double. -/
def readUnsigned (negative : Bool) (cs : List Char) : Option (Except Stop (Value × List Char)) :=
  let whole? := match cs with
    | '0' :: rest => some (['0'], rest)
    | c :: rest =>
      if c.isDigit then some ((c :: rest).takeWhile Char.isDigit, (c :: rest).dropWhile Char.isDigit)
      else none
    | [] => none
  whole?.map fun (whole, rest) =>
    let (places, rest) := fractionPart rest
    let exponent? := exponentPart rest
    if places.isEmpty && exponent?.isNone then
      if digitLimit < whole.length then .error (.tooManyDigits whole.length)
      else
        let n : Int := natOfDigits whole
        .ok (.int (if negative then -n else n), rest)
    else
      let (exponent, rest) := exponent?.getD (0, rest)
      let digits := natOfDigits (whole ++ places)
      .ok (.scalar (.float (Binary64.ofDecimal negative digits (exponent - places.length))), rest)

/-- A number, with its sign. -/
def readNumber (cs : List Char) : Except Stop (Value × List Char) :=
  let unsigned := match cs with
    | '-' :: rest => readUnsigned true rest
    | cs => readUnsigned false cs
  unsigned.getD (failAt .valueExpected cs)

/-! ### Values -/

/-- The words that stand for a value. -/
def words : List (String × Value) :=
  [("null", .null), ("true", .bool true), ("false", .bool false),
    ("NaN", .scalar (.float .nan)), ("Infinity", .scalar (.float (.infinity false))),
    ("-Infinity", .scalar (.float (.infinity true)))]

/-- The word at the start of the characters. -/
def readWord? (cs : List Char) : Option (Value × List Char) :=
  (words.find? fun w => w.1.toList.isPrefixOf cs).map fun w => (w.2, cs.drop w.1.length)

mutual

/-- A value at the start of the characters; each step into a part takes one of `fuel`. Values may be
nested to any depth: that a machine has a stack with an end is left aside. -/
def readValue : Nat → List Char → Except Stop (Value × List Char)
  | 0, cs => failAt .valueExpected cs
  | fuel + 1, cs =>
    match cs with
    | '"' :: rest => do
      let (s, rest) ← readString rest [] rest
      return (.text s, rest)
    | '\x7b' :: rest =>
      match skipSpace rest with
      | '\x7d' :: rest => .ok (.map [], rest)
      | rest => do
        let (entries, rest) ← readEntries fuel rest
        return (.map (mergeKeys entries), rest)
    | '[' :: rest =>
      match skipSpace rest with
      | ']' :: rest => .ok (.list [], rest)
      | rest => do
        let (items, rest) ← readItems fuel rest
        return (.list items, rest)
    | cs =>
      match readWord? cs with
      | some found => .ok found
      | none => readNumber cs

/-- The items of a list up to its closing bracket. -/
def readItems : Nat → List Char → Except Stop (List Value × List Char)
  | 0, cs => failAt .valueExpected cs
  | fuel + 1, cs => do
    let (v, rest) ← readValue fuel cs
    match skipSpace rest with
    | ']' :: rest => return ([v], rest)
    | ',' :: rest =>
      let (vs, rest) ← readItems fuel (skipSpace rest)
      return (v :: vs, rest)
    | rest => failAt .commaExpected rest

/-- The entries of a map up to its closing brace. -/
def readEntries : Nat → List Char → Except Stop (List (Scalar × Value) × List Char)
  | 0, cs => failAt .nameExpected cs
  | fuel + 1, cs =>
    match cs with
    | '"' :: rest => do
      let (name, rest) ← readString rest [] rest
      match skipSpace rest with
      | ':' :: rest =>
        let (v, rest) ← readValue fuel (skipSpace rest)
        match skipSpace rest with
        | '\x7d' :: rest => return ([(.text name, v)], rest)
        | ',' :: rest =>
          let (es, rest) ← readEntries fuel (skipSpace rest)
          return ((.text name, v) :: es, rest)
        | rest => failAt .commaExpected rest
      | rest => failAt .colonExpected rest
    | cs => failAt .nameExpected cs

end

/-- A whole text: one value with blanks around it. -/
def readAll (cs : List Char) : Except Stop Value :=
  match cs with
  | '\ufeff' :: _ => failAt .byteOrderMark cs
  | cs => do
    let (v, rest) ← readValue (cs.length + 1) (skipSpace cs)
    match skipSpace rest with
    | [] => return v
    | rest => failAt .extraData rest

/-- The value that a JSON text stands for. -/
def read (s : String) : Except Error Value :=
  match readAll s.toList with
  | .ok v => .ok v
  | .error (.fault f left) =>
    .error (.malformed f (.after (s.toList.take (s.toList.length - left))))
  | .error (.tooManyDigits count) => .error (.tooManyDigits count)

end ApiBridge.Json
