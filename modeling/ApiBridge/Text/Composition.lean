import ApiBridge.Text.CompositionTable

/-!
# Composed form

The same letter with marks can be written in several ways. The composed form of a text is one of
them: all characters are taken apart, the marks of a letter are put into the order of their classes,
and then letters and marks are put together again, as far as there are characters for them.
-/

namespace ApiBridge.Text

/-- The class of a mark; other characters have class zero. -/
def markClass (c : Char) : Nat :=
  ((markClasses.find? fun m => m.1 ≤ c.toNat && c.toNat ≤ m.2.1).map (·.2.2)).getD 0

/-! ### Hangul -/

/-- The first syllable of Hangul, and the first of its letters at each place. -/
def firstSyllable : Nat := 0xac00
def firstLeading : Nat := 0x1100
def firstVowel : Nat := 0x1161
def beforeTrailing : Nat := 0x11a7

/-- How many letters there are at each place, where a last letter may be missing. -/
def leadingCount : Nat := 19
def vowelCount : Nat := 21
def trailingCount : Nat := 28

/-- The number of a syllable. -/
def syllableNumber? (c : Char) : Option Nat :=
  let n := c.toNat - firstSyllable
  if firstSyllable ≤ c.toNat && n < leadingCount * vowelCount * trailingCount then some n else none

/-- The letters of the syllable with a number. -/
def syllableLetters (n : Nat) : List Char :=
  let leading := Char.ofNat (firstLeading + n / (vowelCount * trailingCount))
  let vowel := Char.ofNat (firstVowel + n / trailingCount % vowelCount)
  let trailing := n % trailingCount
  [leading, vowel] ++ if trailing = 0 then [] else [Char.ofNat (beforeTrailing + trailing)]

/-- The syllable of two letters, or of a syllable without last letter and one. -/
def joinedSyllable? (a b : Char) : Option Char :=
  let leading := a.toNat - firstLeading
  let vowel := b.toNat - firstVowel
  let trailing := b.toNat - beforeTrailing
  if firstLeading ≤ a.toNat && leading < leadingCount && firstVowel ≤ b.toNat
      && vowel < vowelCount then
    some (Char.ofNat (firstSyllable + (leading * vowelCount + vowel) * trailingCount))
  else if (syllableNumber? a).any (· % trailingCount = 0) && beforeTrailing < b.toNat
      && trailing < trailingCount then
    some (Char.ofNat (a.toNat + trailing))
  else none

/-! ### Taking apart -/

/-- The two parts of a composed character. -/
def pairOf? (c : Char) : Option (Char × Char) :=
  composedPairs.findSome? fun (first, parts) =>
    if first ≤ c.toNat && c.toNat < first + parts.length / 2 then
      match parts.toList.drop (2 * (c.toNat - first)) with
      | a :: b :: _ => some (a, b)
      | _ => none
    else none

/-- The character that another one stands for. -/
def singleOf? (c : Char) : Option Char :=
  composedSingles.findSome? fun (first, others) =>
    if first ≤ c.toNat then others.toList[c.toNat - first]? else none

/-- How often characters can be taken apart. -/
def composedDepth : Nat := 3

/-- The parts of a character that cannot be taken apart again; `fuel` bounds how often they are. -/
def partsOf : Nat → Char → List Char
  | 0, c => [c]
  | fuel + 1, c =>
    match pairOf? c, singleOf? c with
    | some (a, b), _ => partsOf fuel a ++ [b]
    | none, some a => partsOf fuel a
    | none, none => ((syllableNumber? c).map syllableLetters).getD [c]

/-! ### Order -/

/-- Put a mark behind the others, which are given from the last one on: in front of those of higher
classes. -/
def putMark (c : Char) : List Char → List Char
  | [] => [c]
  | d :: ds =>
    if 0 < markClass c && markClass c < markClass d then d :: putMark c ds else c :: d :: ds

/-- The characters with marks in order. -/
def ordered (cs : List Char) : List Char :=
  (cs.foldl (fun done c => putMark c done) []).reverse

/-! ### Putting together -/

/-- The composed character with two parts. -/
def composed? (a b : Char) : Option Char :=
  let ofRun : Nat × String → Option Char := fun (first, parts) =>
    (placeIn first parts.toList).filter fun c => !CodeRange.covers neverComposed c.toNat
  joinedSyllable? a b <|> composedPairs.findSome? ofRun
where
  placeIn (code : Nat) : List Char → Option Char
    | c :: d :: rest => if c = a && d = b then some (Char.ofNat code) else placeIn (code + 1) rest
    | _ => none

/-- Put characters together: `letter` is the last letter so far, and `marks` are the marks behind it,
from the last one on. -/
def joined (letter : Char) (marks : List Char) : List Char → List Char
  | [] => letter :: marks.reverse
  | c :: cs =>
    let reached := marks.head?.all fun m => markClass m < markClass c
    match if reached then composed? letter c else none with
    | some l => joined l marks cs
    | none =>
      if markClass c = 0 then letter :: (marks.reverse ++ joined c [] cs)
      else joined letter (c :: marks) cs

/-- The composed form of a text. -/
def composedForm (cs : List Char) : List Char :=
  let parts := ordered (cs.flatMap (partsOf composedDepth))
  let start := parts.takeWhile (markClass · ≠ 0)
  match parts.drop start.length with
  | [] => start
  | c :: cs => start ++ joined c [] cs

/-- Is a text in composed form? -/
def isComposed (cs : List Char) : Bool :=
  composedForm cs = cs

example : syllableLetters 0 = ['\u1100', '\u1161'] := by decide +kernel
example : joinedSyllable? '\u1100' '\u1161' = some '\uac00' := by decide +kernel

end ApiBridge.Text
