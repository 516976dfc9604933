import ApiBridge.Text.Composition
import ApiBridge.Text.Punycode
import ApiBridge.Url.JoiningTable
import ApiBridge.Url.NameTable

/-!
# Host names in any script

A host name is a row of labels with dots between them. The characters of a label are letters, digits
and marks in their composed form; a few more may stand only in certain company. A label that reads
from right to left has to do so throughout.
-/

namespace ApiBridge.Url

open Text (CodeRange markClass toPunycode ofPunycode?)

/-- Why a label may not stand in a host name. -/
inductive LabelError
  | malformed
  | badCharacter
  /-- A character does not stand in the company that it needs. -/
  | badCompany
  /-- The directions of the characters do not go together. -/
  | badDirection
  deriving DecidableEq, Repr

/-! ### Classes -/

/-- May the character stand in any name? -/
def isNameChar (c : Char) : Bool :=
  CodeRange.covers nameRanges c.toNat
    || alternatingRanges.any fun r =>
      r.first ≤ c.toNat && c.toNat ≤ r.last && (c.toNat - r.first) % 2 == 0

/-- Is the character a mark? -/
def isMark (c : Char) : Bool :=
  CodeRange.covers marks c.toNat

/-- Is nothing known of the character? -/
def isUnknown (c : Char) : Bool :=
  CodeRange.covers unknownCharacters c.toNat

/-! ### Company -/

/-- The class of the marks that join consonants. -/
def joiningClass : Nat := 9

/-- Is the character before, given from the nearest on, a mark that joins consonants? It has to be
one that has a name. -/
def followsJoiningMark (before : List Char) : Except LabelError Bool :=
  match before with
  | [] => .ok false
  | c :: _ =>
    if isUnknown c || CodeRange.covers namelessCharacters c.toNat then .error .malformed
    else .ok (markClass c = joiningClass)

/-- Is the nearest of the characters, but for marks that letters are joined through, in one of the
ranges? -/
def reaches (ranges : List CodeRange) (cs : List Char) : Bool :=
  ((cs.dropWhile fun c => CodeRange.covers joiningThrough c.toNat).head?).any fun c =>
    CodeRange.covers ranges c.toNat

/-- Do the letters on both sides of a place join over it? -/
def joinOver (before after : List Char) : Bool :=
  reaches (joiningLeft ++ joiningBothSides) before
    && reaches (joiningRight ++ joiningBothSides) after

/-- May the character stand between those before it, given from the nearest on, and those after it,
in the label? -/
def isInCompany (label before after : List Char) (c : Char) : Except LabelError Bool :=
  let n := c.toNat
  if n = 0x200c then do return (← followsJoiningMark before) || joinOver before after
  else if n = 0x200d then followsJoiningMark before
  else
    .ok <|
      if n = 0xb7 then before.head? = some 'l' && after.head? = some 'l'
      else if n = 0x375 then after.head?.any fun c => CodeRange.covers greekLetters c.toNat
      else if n = 0x5f3 || n = 0x5f4 then
        before.head?.any fun c => CodeRange.covers hebrewLetters c.toNat
      else if n = 0x30fb then
        label.any fun c => CodeRange.covers (hiragana ++ katakana ++ ideographs) c.toNat
      else if n ≤ 0x669 then !label.any fun c => 0x6f0 ≤ c.toNat && c.toNat ≤ 0x6f9
      else !label.any fun c => 0x660 ≤ c.toNat && c.toNat ≤ 0x669

/-- Does the character need company? -/
def needsCompany (c : Char) : Bool :=
  let n := c.toNat
  [0xb7, 0x375, 0x5f3, 0x5f4, 0x30fb, 0x200c, 0x200d].contains n || (0x660 ≤ n && n ≤ 0x669)
    || (0x6f0 ≤ n && n ≤ 0x6f9)

/-- Check the characters of a label; `before` holds those before them, from the nearest on. -/
def checkCharacters (label before : List Char) : List Char → Except LabelError Unit
  | [] => .ok ()
  | c :: cs => do
    if needsCompany c then
      if !(← isInCompany label before cs c) then throw .badCompany
    else if !isNameChar c then throw .badCharacter
    checkCharacters label (c :: before) cs

/-! ### Direction -/

/-- How a character takes part in the direction of a label. -/
inductive Direction
  | left
  | right
  | rightDigit
  | digit
  | neutral
  | mark
  deriving DecidableEq, Repr

/-- The direction of a character that may stand in a label. -/
def directionOf (c : Char) : Direction :=
  let n := c.toNat
  if CodeRange.covers rightToLeftLetters n then .right
  else if CodeRange.covers rightToLeftDigits n then .rightDigit
  else if CodeRange.covers commonDigits n then .digit
  else if CodeRange.covers followingMarks n then .mark
  else if CodeRange.covers neutralCharacters n then .neutral
  else .left

/-- Do the directions of a label go together? They have to be known. -/
def hasOneDirection (label : List Char) : Bool :=
  let ds := label.map directionOf
  let ending := (ds.reverse.dropWhile (· = .mark)).head?
  if label.any isUnknown then false
  else if !ds.any fun d => d = .right || d = .rightDigit then true
  else if ds.head? = some .right then
    !ds.contains .left && !(ds.contains .digit && ds.contains .rightDigit)
      && ending.any fun d => d = .right || d = .digit || d = .rightDigit
  else false

/-! ### Labels -/

/-- Do dashes stand only where they may? -/
def hasGoodDashes (label : List Char) : Bool :=
  label.head? ≠ some '-' && label.getLast? ≠ some '-' && (label.drop 2).take 2 ≠ ['-', '-']

/-- Check a label in any script. -/
def checkLabel (label : List Char) : Except LabelError Unit := do
  if label.isEmpty || !Text.isComposed label || !hasGoodDashes label
      || label.head?.any isMark then
    throw .malformed
  checkCharacters label [] label
  if !hasOneDirection label then throw .badDirection

/-- What an ASCII label starts with that stands for a label in another script. -/
def foreignStart : List Char := "xn--".toList

/-- Check a label in ASCII: the one that it stands for. A dash has to follow characters that stand
for themselves. -/
def checkAsciiLabel (label : List Char) : Except LabelError Unit :=
  let label := label.map Char.toLower
  if foreignStart.isPrefixOf label then
    let code := label.drop foreignStart.length
    let startsWithDash := code.head? = some '-' && !code.tail.contains '-'
    if code.isEmpty || startsWithDash || code.getLast? = some '-' then .error .malformed
    else
      match ofPunycode? code with
      | some label => checkLabel label
      | none => .error .malformed
  else checkLabel label

/-- A label in ASCII. -/
def toAscii (label : List Char) : List Char :=
  if label.all (·.toNat < 0x80) then label else foreignStart ++ toPunycode label

/-! ### Names -/

/-- Does the character end a label? -/
def isDot (c : Char) : Bool :=
  c = '.' || c = '\u3002' || c = '\uff0e' || c = '\uff61'

/-- The labels of a name, where a dot may stand at the end. -/
def labelsOf (name : List Char) : List (List Char) :=
  let labels := name.splitOnP isDot
  if labels.getLast? = some [] then labels.dropLast else labels

/-- The most characters of a label in ASCII. -/
def longestLabel : Nat := 63

/-- The most characters of a name in ASCII. -/
def longestName : Nat := 253

/-- Is the text of the length of a name, with a dot at its end? -/
def hasNameLength (name : List Char) : Bool :=
  name.length ≤ longestName + 1

/-- Is the name one of a host, in any script? -/
def isHostName (name : List Char) : Bool :=
  let labels := labelsOf name
  let written := labels.map toAscii
  hasNameLength name && !labels.isEmpty
    && labels.all (fun l =>
      (if l.all (·.toNat < 0x80) then checkAsciiLabel l else checkLabel l).isOk)
    && written.all (·.length ≤ longestLabel)
    && (List.intercalate ['.'] written).length ≤ longestName

/-- Check that the labels of an ASCII name stand for labels. -/
def checkAsciiName (name : List Char) : Except LabelError Unit := do
  if !hasNameLength name then throw .malformed
  (labelsOf name).forM checkAsciiLabel

end ApiBridge.Url
