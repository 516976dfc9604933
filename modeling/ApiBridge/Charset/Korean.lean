import ApiBridge.Charset.MultiByte
import ApiBridge.Charset.Table.KsX1001

/-!
# Korean charsets

The common Hangul syllables have cells in a grid. The other syllables are spelled out in letters, or
fill the pairs outside of the grid in the order of their code points, or all syllables are made of
the numbers of their letters.
-/

namespace ApiBridge.Charset

/-- The cells of the common characters. -/
def ksX1001 : Array Char :=
  gridOfRuns (rowLength * rowLength) ksX1001Runs

/-! ### Syllables -/

/-- The first letters of syllables, in order. -/
def leadingLetters : List Char :=
  "ㄱㄲㄴㄷㄸㄹㅁㅂㅃㅅㅆㅇㅈㅉㅊㅋㅌㅍㅎ".toList

/-- The vowels of syllables, in order. -/
def vowelLetters : List Char :=
  "ㅏㅐㅑㅒㅓㅔㅕㅖㅗㅘㅙㅚㅛㅜㅝㅞㅟㅠㅡㅢㅣ".toList

/-- The last letters of syllables, in order. A syllable may do without. -/
def trailingLetters : List Char :=
  "ㄱㄲㄳㄴㄵㄶㄷㄹㄺㄻㄼㄽㄾㄿㅀㅁㅂㅄㅅㅆㅇㅈㅊㅋㅌㅍㅎ".toList

/-- The syllable of the letters with the given numbers; the number of the last letter counts from
one, and is zero if there is none. -/
def syllableOf (leading vowel trailing : Nat) : Char :=
  Char.ofNat (0xac00 + (leading * vowelLetters.length + vowel) * (trailingLetters.length + 1)
    + trailing)

/-! ### Extended Unix code -/

/-- The bytes in front of the letters of a syllable that is spelled out; the second one also stands
for a missing last letter. -/
def spellingMark : UInt8 := 0xa4
def spellingFill : UInt8 := 0xd4

/-- The letter of the grid behind the mark of letters. -/
def spelledLetter? (b : UInt8) : Option Char :=
  (cellOfHighPair? spellingMark.toNat b.toNat).bind (cellAt? ksX1001)

/-- The syllable that three letters spell. -/
def spelledSyllable? (a b c : UInt8) : Option Char := do
  let leading ← leadingLetters.idxOf? (← spelledLetter? a)
  let vowel ← vowelLetters.idxOf? (← spelledLetter? b)
  if c = spellingFill then return syllableOf leading vowel 0
  let trailing ← trailingLetters.idxOf? (← spelledLetter? c)
  return syllableOf leading vowel (trailing + 1)

/-- Take a byte of ASCII, a pair of the grid, or a syllable that is spelled out in eight bytes. -/
def takeKorean (b : UInt8) (bs : List UInt8) : Taken :=
  if b = spellingMark && bs.head? = some spellingFill then
    match bs.tail with
    | m :: x :: n :: y :: o :: z :: _ =>
      let spelled? := if [m, n, o].all (· = spellingMark) then spelledSyllable? x y z else none
      .ofText? (spelled?.map ([·])) 7
    | _ => .gap bs.length
  else MultiByte.takeCell ksX1001 cellOfHighPair? b bs

/-- Korean in extended Unix code. -/
def eucKr : MultiByte where
  names := ["euc_kr"]
  labels := ["euckr", "korean", "ksc5601", "ks_c_5601", "ks_c_5601_1987", "ksx1001", "ks_x_1001",
    "x_mac_korean"]
  take := takeKorean

/-! ### The unified charset -/

/-- The Hangul syllables that are not in the grid. -/
def rareSyllables : Array Char :=
  absentBetween ksX1001 0xac00 0xd7a3

/-- The number of a second byte outside of the grid. -/
def syllableTrail? (b : Nat) : Option Nat :=
  if 0x41 ≤ b && b ≤ 0x5a then some (b - 0x41)
  else if 0x61 ≤ b && b ≤ 0x7a then some (b - 0x61 + 26)
  else if 0x81 ≤ b && b ≤ 0xfe then some (b - 0x81 + 52)
  else none

/-- The number of a pair outside of the grid: the first 32 rows have 178 places, the others 84. -/
def syllablePlace? (lead trail : Nat) : Option Nat := do
  let i ← syllableTrail? trail
  if 0x81 ≤ lead && lead ≤ 0xa0 then return (lead - 0x81) * 178 + i
  else if 0xa1 ≤ lead && lead ≤ 0xc6 && i < 84 then return 32 * 178 + (lead - 0xa1) * 84 + i
  else none

/-- The text of a pair in the unified charset. -/
def unifiedKoreanPair? (lead trail : Nat) : Option (List Char) :=
  match cellOfHighPair? lead trail, syllablePlace? lead trail with
  | some i, _ => (cellAt? ksX1001 i).map ([·])
  | none, some i => (cellAt? rareSyllables i).map ([·])
  | none, none => none

/-- The unified charset. -/
def unifiedKorean : MultiByte where
  names := ["cp949"]
  labels := ["949", "ms949", "uhc"]
  take := MultiByte.takePair MultiByte.asciiOnly unifiedKoreanPair?

/-! ### Combining code -/

/-- The part of a syllable that five bits give. -/
inductive SyllablePart
  /-- The part is left out. -/
  | fill
  | letter (i : Nat)
  deriving DecidableEq, Repr

/-- The part of five bits, where letters have the numbers in `codes` in turn. -/
def syllablePart? (fill : Nat) (codes : List Nat) (bits : Nat) : Option SyllablePart :=
  if bits = fill then some .fill else (codes.idxOf? bits).map .letter

/-- The numbers of first letters, vowels and last letters. -/
def leadingCodes : List Nat := List.range' 2 19
def vowelCodes : List Nat :=
  List.range' 3 5 ++ List.range' 10 6 ++ List.range' 18 6 ++ List.range' 26 4
def trailingCodes : List Nat := List.range' 2 16 ++ List.range' 19 11

/-- The syllable or the letter that 15 bits give. -/
def combined? (n : Nat) : Option Char := do
  let leading ← syllablePart? 1 leadingCodes (n / 1024 % 32)
  let vowel ← syllablePart? 2 vowelCodes (n / 32 % 32)
  let trailing ← syllablePart? 1 trailingCodes (n % 32)
  match leading, vowel, trailing with
  | .letter i, .letter j, .fill => return syllableOf i j 0
  | .letter i, .letter j, .letter k => return syllableOf i j (k + 1)
  | .fill, .fill, .fill => return '\u3000'
  | .letter i, .fill, .fill => leadingLetters[i]?
  | .fill, .letter j, .fill => vowelLetters[j]?
  | .fill, .fill, .letter k => trailingLetters[k]?
  | _, _, _ => none

/-- The number of a second byte in the rows of the grid. -/
def combiningTrail? (b : Nat) : Option Nat :=
  if 0x31 ≤ b && b ≤ 0x7e then some (b - 0x31)
  else if 0x91 ≤ b && b ≤ 0xfe then some (b - 0x43)
  else none

/-- The cell of a pair: a first byte has two rows, of the symbols or of Hanja. The letters, which are
in the fourth row, are not there. -/
def combiningCell? (lead trail : Nat) : Option Nat := do
  let i ← combiningTrail? trail
  if lead = 0xda && 0xa1 ≤ trail && trail ≤ 0xd3 then none
  else if 0xd9 ≤ lead && lead ≤ 0xde then return (lead - 0xd9) * 2 * rowLength + i
  else if 0xe0 ≤ lead then return (41 + (lead - 0xe0) * 2) * rowLength + i
  else none

/-- The text of a pair in combining code. -/
def combiningPair? (lead trail : Nat) : Option (List Char) :=
  let c? :=
    if lead < 0xd8 then combined? (lead * 256 + trail)
    else (combiningCell? lead trail).bind (cellAt? ksX1001)
  c?.map ([·])

/-- Combining code: a syllable is made of the numbers of its letters. -/
def johab : MultiByte where
  names := ["johab"]
  labels := ["cp1361", "ms1361"]
  take := MultiByte.takePair MultiByte.asciiOnly combiningPair?

end ApiBridge.Charset
