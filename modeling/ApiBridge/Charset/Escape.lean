import ApiBridge.Charset.Reading
import ApiBridge.Text.CharacterName

/-!
# Texts with escapes

In an escaped text a byte is the character with its number, and a backslash starts an escape for
any other character. In the raw form only the escapes with a code point count.
-/

namespace ApiBridge.Charset

/-- The value of a hexadecimal digit. -/
def hexValue? (c : Char) : Option Nat :=
  if c.isDigit then some (c.toNat - '0'.toNat)
  else
    let c := c.toLower
    if 'a' ≤ c && c ≤ 'f' then some (c.toNat - 'a'.toNat + 10) else none

/-- The number of hexadecimal digits that come first, but not more than `n`. -/
def hexCount (n : Nat) (cs : List Char) : Nat :=
  ((cs.take n).takeWhile fun c => (hexValue? c).isSome).length

/-- The last code point. -/
def lastCodePoint : Nat := 0x10ffff

/-- The character of a code point. Half of a surrogate pair is one that cannot be told. -/
def ofEscapedCode? (n : Nat) : Option Char :=
  if n ≤ lastCodePoint then some ((ofCodePoint? n).getD replacement) else none

/-- The character that `n` hexadecimal digits give. -/
def ofHexDigits? (n : Nat) (cs : List Char) : Option Char :=
  if hexCount n cs = n then
    ofEscapedCode? ((cs.take n).foldl (fun k c => k * 16 + (hexValue? c).getD 0) 0)
  else none

/-- Is the character an octal digit? -/
def isOctalDigit (c : Char) : Bool :=
  '0' ≤ c && c ≤ '7'

/-- The octal digits that come first, but not more than two. -/
def octalDigits (cs : List Char) : List Char :=
  (cs.take 2).takeWhile isOctalDigit

/-- The character that a letter after a backslash stands for. -/
def ofEscapeLetter? : Char → Option Char
  | '\\' => some '\\'
  | '\'' => some '\''
  | '"' => some '"'
  | 'a' => some '\x07'
  | 'b' => some '\x08'
  | 't' => some '\t'
  | 'n' => some '\n'
  | 'v' => some '\x0b'
  | 'f' => some '\x0c'
  | 'r' => some '\r'
  | _ => none

/-- The number of hexadecimal digits after a letter. -/
def hexDigitsAfter? : Char → Option Nat
  | 'x' => some 2
  | 'u' => some 4
  | 'U' => some 8
  | _ => none

/-- The name behind the letter of an escape by name, in braces. -/
def escapedName? (cs : List Char) : Option (List Char) :=
  match cs with
  | '\x7b' :: cs =>
    let name := cs.takeWhile (· ≠ '\x7d')
    if name.length = cs.length then none else some name
  | _ => none

/-- How many characters of an escape by name follow its letter. The brace behind no name is not part
of it. -/
def nameLength (cs : List Char) : Nat :=
  match cs, escapedName? cs with
  | _, some name => if name.isEmpty then 1 else name.length + 2
  | '\x7b' :: _, none => cs.length
  | _, none => 0

/-- The characters of an escaped text. -/
def unescapeAll : List Char → Reading
  | [] => []
  | ['\\'] => [none]
  | '\\' :: c :: cs =>
    if c = '\n' then unescapeAll cs
    else if let some plain := ofEscapeLetter? c then some plain :: unescapeAll cs
    else if let some n := hexDigitsAfter? c then
      ofHexDigits? n cs :: unescapeAll (cs.drop (hexCount n cs))
    else if isOctalDigit c then
      let digits := octalDigits cs
      ofEscapedCode? ((c :: digits).foldl (fun k d => k * 8 + (d.toNat - '0'.toNat)) 0)
        :: unescapeAll (cs.drop digits.length)
    else if c = 'N' then
      (escapedName? cs).bind Text.characterNamed? :: unescapeAll (cs.drop (nameLength cs))
    else some '\\' :: some c :: unescapeAll cs
  | c :: cs => some c :: unescapeAll cs
termination_by cs => cs.length
decreasing_by all_goals (simp only [List.length_cons, List.length_drop]; omega)

/-- The characters of a raw text, where only `\u` and `\U` start escapes. -/
def unescapeRaw : List Char → Reading
  | '\\' :: c :: cs =>
    match if c = 'x' then none else hexDigitsAfter? c with
    | some n => ofHexDigits? n cs :: unescapeRaw (cs.drop (hexCount n cs))
    | none => some '\\' :: some c :: unescapeRaw cs
  | c :: cs => some c :: unescapeRaw cs
  | [] => []
termination_by cs => cs.length
decreasing_by all_goals (simp only [List.length_cons, List.length_drop]; omega)

end ApiBridge.Charset
