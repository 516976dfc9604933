import ApiBridge.Text.CharacterName.Alias
import ApiBridge.Text.CharacterName.Ancient
import ApiBridge.Text.CharacterName.Eastern
import ApiBridge.Text.CharacterName.Hieroglyphs
import ApiBridge.Text.CharacterName.Pictures
import ApiBridge.Text.CharacterName.Southern
import ApiBridge.Text.CharacterName.Symbols
import ApiBridge.Text.CharacterName.Western
import ApiBridge.Text.CodeRange

/-!
# Characters by name

Every character of Unicode (version 14) has a name, and some have further ones. The names of Hangul
syllables are made of the names of their letters, and those of ideographs of their code points.
-/

namespace ApiBridge.Text

/-- What stands behind a start of a text. -/
def behind? (start cs : List Char) : Option (List Char) :=
  if start.isPrefixOf cs then some (cs.drop start.length) else none

/-! ### Tables -/

/-- The marks in front of names, in the order of what they stand for. -/
def sharingMarks : List Char :=
  "abcdefghijklmnopqrstuvwxyzαβγδεζηθικλμνξοπρστυφχψω".toList

/-- Does a character belong to a name, rather than being a mark in front of one? -/
def isNamePart (c : Char) : Bool :=
  c.isUpper || c.isDigit || c = ' ' || c = '-'

/-- The code point of a name among those of a run. The name before the next one is `last`; the next
one has the code point `code`. -/
def codeInRun? (name last : List Char) (code : Nat) : List Char → Option Nat
  | [] => none
  | mark :: cs =>
    let next := last.take (sharingMarks.idxOf mark) ++ cs.takeWhile isNamePart
    if next = name then some code
    else codeInRun? name next (code + 1) (cs.dropWhile isNamePart)
termination_by cs => cs.length
decreasing_by
  have := (List.dropWhile_sublist isNamePart (l := cs)).length_le
  simp only [List.length_cons]; omega

/-- All runs of names. -/
def nameRuns : List (List (Nat × String)) :=
  [westernNames, southernNames, symbolsNames, easternNames, ancientNames, hieroglyphsNames,
    picturesNames]

/-- The code point of a name in the tables. -/
def codeInTables? (name : List Char) : Option Nat :=
  nameRuns.findSome? fun runs =>
    runs.findSome? fun (first, names) => codeInRun? name [] first names.toList

/-- The code point of a further name. -/
def codeOfFurther? (name : List Char) : Option Nat :=
  (furtherNames.find? fun entry => entry.2.toList = name).map (·.1)

/-! ### Names with code points -/

/-- The number of hexadecimal digits with capital letters, which are four or five. -/
def codeOfDigits? (digits : List Char) : Option Nat :=
  let value? (c : Char) : Option Nat :=
    if c.isDigit then some (c.toNat - '0'.toNat)
    else if 'A' ≤ c && c ≤ 'F' then some (c.toNat - 'A'.toNat + 10)
    else none
  if digits.length = 4 || digits.length = 5 then
    digits.foldlM (fun n c => (value? c).map (n * 16 + ·)) 0
  else none

/-- The unified ideographs. -/
def unifiedIdeographs : List CodeRange :=
  [
    (0x3400, 0x4dbf), (0x4e00, 0x9fff), (0x20000, 0x2a6df), (0x2a700, 0x2b738),
    (0x2b740, 0x2b81d), (0x2b820, 0x2cea1), (0x2ceb0, 0x2ebe0), (0x30000, 0x3134a)
  ].map CodeRange.ofPair

/-- The other characters whose names end in their code points, with the start of the names. -/
def numberedCharacters : List (String × List CodeRange) :=
  [
    ("CJK COMPATIBILITY IDEOGRAPH-",
      [(0xf900, 0xfa6d), (0xfa70, 0xfad9), (0x2f800, 0x2fa1d)].map CodeRange.ofPair),
    ("KHITAN SMALL SCRIPT CHARACTER-", [⟨0x18b00, 0x18cd5⟩]),
    ("NUSHU CHARACTER-", [⟨0x1b170, 0x1b2fb⟩])
  ]

/-- The code point at the end of a name that starts in a way, if it is in one of the ranges. -/
def numberedCode? (start : String) (ranges : List CodeRange) (name : List Char) : Option Nat := do
  let code ← codeOfDigits? (← behind? start.toList name)
  if CodeRange.covers ranges code then some code else none

/-- The code point at the end of the name of a character with a number, without zeros in front. -/
def codeOfNumbered? (name : List Char) : Option Nat :=
  numberedCharacters.findSome? fun (start, ranges) =>
    (numberedCode? start ranges name).filter fun code =>
      code < 0x10000 || name.length = start.length + 5

/-! ### Hangul syllables -/

/-- The names of the first letters, the vowels and the last letters of syllables. -/
def leadingNames : List String :=
  ["G", "GG", "N", "D", "DD", "R", "M", "B", "BB", "S", "SS", "", "J", "JJ", "C", "K", "T", "P", "H"]
def vowelNames : List String :=
  ["A", "AE", "YA", "YAE", "EO", "E", "YEO", "YE", "O", "WA", "WAE", "OE", "YO", "U", "WEO", "WE",
    "WI", "YU", "EU", "YI", "I"]
def trailingNames : List String :=
  ["", "G", "GG", "GS", "N", "NJ", "NH", "D", "L", "LG", "LM", "LB", "LS", "LT", "LP", "LH", "M",
    "B", "BS", "S", "SS", "NG", "J", "C", "K", "T", "P", "H"]

/-- The number of the longest name that a text starts with, and the rest of the text. -/
def longestName? (names : List String) (cs : List Char) : Option (Nat × List Char) :=
  names.zipIdx.foldl (fun best (name, i) =>
    match behind? name.toList cs, best with
    | some rest, none => some (i, rest)
    | some rest, some (_, shortest) => if rest.length < shortest.length then some (i, rest) else best
    | none, _ => best) none

/-- The code point of the syllable with a name. -/
def codeOfSyllable? (name : List Char) : Option Nat := do
  let (leading, cs) ← longestName? leadingNames name
  let (vowel, cs) ← longestName? vowelNames cs
  let (trailing, cs) ← longestName? trailingNames cs
  if cs.isEmpty then
    some (0xac00 + (leading * vowelNames.length + vowel) * trailingNames.length + trailing)
  else none

/-! ### All names -/

/-- The character with a name. The letters of a name may be small, except where it is made of other
names or of a code point. -/
def characterNamed? (name : List Char) : Option Char :=
  let code? :=
    match behind? "HANGUL SYLLABLE ".toList name, behind? ideographStart.toList name with
    | some rest, _ => codeOfSyllable? rest
    | none, some _ => numberedCode? ideographStart unifiedIdeographs name
    | none, none =>
      let name := name.map Char.toUpper
      codeOfFurther? name <|> codeOfNumbered? name <|> codeInTables? name
  code?.map Char.ofNat
where
  ideographStart : String := "CJK UNIFIED IDEOGRAPH-"

end ApiBridge.Text
