import ApiBridge.Charset.Chinese
import ApiBridge.Charset.Japanese
import ApiBridge.Charset.Korean
import ApiBridge.Charset.Table.Iso

/-!
# Charsets that switch between sets

Seven bits have room for one set of characters at a time. An escape sequence chooses the set that the
bytes behind it belong to. There may be a second set, to which one byte shifts and from which another
one shifts back, and a third one for single characters.
-/

namespace ApiBridge.Charset

/-! ### Sets -/

/-- A set of characters that can be chosen. -/
structure CharacterSet where
  /-- The letter at the end of the sequence that chooses the set. -/
  letter : Char
  /-- Is a character two bytes? -/
  isDouble : Bool
  /-- The text of a character; a single byte comes with itself. -/
  text? : UInt8 → UInt8 → Option (List Char)

namespace CharacterSet

/-- A set of single bytes. -/
def ofBytes (letter : Char) (char? : Nat → Option Char) : CharacterSet where
  letter := letter
  isDouble := false
  text? := fun b _ => (char? b.toNat).map ([·])

/-- The cell of a pair in seven bits. -/
def cell? (lead trail : UInt8) : Option Nat :=
  cellOfHighPair? (lead.toNat + 0x80) (trail.toNat + 0x80)

/-- A set of pairs with the texts of a grid. -/
def ofTexts (letter : Char) (text? : Nat → Option (List Char)) : CharacterSet where
  letter := letter
  isDouble := true
  text? := fun lead trail => (cell? lead trail).bind text?

/-- A set of pairs with the characters of a grid. -/
def ofGrid (letter : Char) (cells : Array Char) : CharacterSet :=
  ofTexts letter fun i => (cellAt? cells i).map ([·])

/-- The sets. Of the two Western ones only the place of the third set can be taken. -/
def western : CharacterSet := ofBytes 'A' fun _ => none
def greek : CharacterSet := ofBytes 'F' fun _ => none
def japaneseLetters : CharacterSet := ofBytes 'J' japaneseSingle?
def kana : CharacterSet := ofBytes 'I' fun b => halfWidthKana? (b + 0x80)
def olderJapanese : CharacterSet := ofGrid '@' jisX0208
def japanese : CharacterSet := ofGrid 'B' jisX0208
def furtherJapanese : CharacterSet := ofGrid 'D' jisX0212
def extendedFirst : CharacterSet := ofTexts 'O' (firstGridText? .first .mixed)
def extendedSecond : CharacterSet := ofGrid 'P' jisX0213Second
def extendedLater : CharacterSet := ofTexts 'Q' (firstGridText? .second .mixed)
def chinese : CharacterSet := ofGrid 'A' gb2312Cells
def korean : CharacterSet := ofGrid 'C' ksX1001

end CharacterSet

/-- A charset that switches between sets. -/
structure Switching where
  /-- What the charset is called. -/
  names : List String
  /-- What else it may be called. -/
  labels : List String
  /-- The sets that can be chosen besides ASCII. -/
  sets : List CharacterSet
  /-- Can bytes shift to a second set? -/
  shifts : Bool
  /-- Is there a third set? -/
  hasThird : Bool
  /-- May a mark of a revision stand in front of a sequence? -/
  hasRevisions : Bool

namespace Switching

/-! ### Escape sequences -/

/-- The byte in front of a sequence. -/
def escape : UInt8 := 0x1b

/-- The most bytes of a sequence. -/
def longestEscape : Nat := 16

/-- Does the byte end a sequence? -/
def endsEscape (b : UInt8) : Bool :=
  ('A' ≤ ofByte b && ofByte b ≤ 'Z') || ofByte b = '@'

/-- The length of a sequence, of which `i` bytes are in front of the given ones: zero if it is too
long, and nothing if the bytes end before it. -/
def escapeLength? (c : Switching) (i : Nat) (bs : List UInt8) : Option Nat :=
  if longestEscape ≤ i then some 0
  else
    match bs with
    | [] => none
    | b :: bs =>
      if endsEscape b then some (i + 1)
      else if c.hasRevisions && ofByte b = '&' && (bs.head?.map ofByte) = some '@' then
        escapeLength? c (i + 3) (bs.drop 2)
      else escapeLength? c (i + 1) bs
termination_by bs.length
decreasing_by all_goals (simp only [List.length_cons, List.length_drop]; omega)

/-- The places that sets can take. -/
inductive Place
  | first
  | second
  | third
  deriving DecidableEq, Repr

/-- The choice that a sequence makes: a place, the letter of a set, and whether it is one of pairs. -/
def choiceOf? (c : Switching) (sequence : List UInt8) : Option (Place × Char × Bool) :=
  match (sequence.drop 1).map ofByte with
  | ['$', letter] => some (.first, letter, true)
  | ['(', letter] => some (.first, letter, false)
  | [')', letter] => some (.second, letter, false)
  | ['.', letter] => if c.hasThird then some (.third, letter, false) else none
  | ['$', '(', letter] => some (.first, letter, true)
  | ['$', ')', letter] => some (.second, letter, true)
  | [_, _, '\x1b', '$', 'B'] => if c.hasRevisions then some (.first, 'B', true) else none
  | _ => none

/-! ### Steps -/

/-- What is chosen; no set is ASCII. -/
structure State where
  first : Option CharacterSet := none
  second : Option CharacterSet := none
  third : Option CharacterSet := none
  isShifted : Bool := false
  /-- Are we in a sequence that is not one of these charsets? It is part of the text. -/
  inForeign : Bool := false

/-- Let a set take a place. -/
def State.choose (s : State) (place : Place) (set : Option CharacterSet) : State :=
  match place with
  | .first => { s with first := set }
  | .second => { s with second := set }
  | .third => { s with third := set }

/-- Why there is no next step. -/
inductive Stop
  /-- The bytes end too early. -/
  | cutOff
  /-- The third place is taken by a set that cannot be read there. -/
  | unreadable
  deriving DecidableEq, Repr

/-- The reading of a step, how many further bytes it takes, and the state behind it. -/
structure Step where
  reading : Reading
  more : Nat
  state : State

/-- A step to one character. -/
def Step.char (s : State) (c : Char) : Step :=
  ⟨[some c], 0, s⟩

/-- A step over a sequence. -/
def takeEscape (c : Switching) (s : State) (bs : List UInt8) : Except Stop Step :=
  match c.escapeLength? 1 bs with
  | none => .error .cutOff
  | some 0 => .ok ⟨[none], 0, s⟩
  | some (n + 1) =>
    let refused : Except Stop Step := .ok ⟨[none], n, s⟩
    match c.choiceOf? (escape :: bs.take n) with
    | none => refused
    | some (place, letter, isDouble) =>
      let set? := c.sets.find? fun set => set.letter = letter && set.isDouble = isDouble
      if set?.isSome || (letter = 'B' && !isDouble) then .ok ⟨[], n, s.choose place set?⟩
      else refused

/-- The bytes of the Greek set that are no characters in the third place. -/
def missingGreek : List UInt8 := [0xa4, 0xa5, 0xaa]

/-- A step to a character of the third set, by the byte behind a sequence. -/
def takeThird (s : State) (b : UInt8) : Except Stop Step :=
  let step (char? : Option Char) : Except Stop Step := .ok ⟨[char?], 2, s⟩
  match s.third.map (·.letter) with
  | none => step (if b < 0x80 then some (ofByte b) else none)
  | some 'A' => step (if b < 0x80 then some (Char.ofNat (b.toNat + 0x80)) else none)
  | some 'F' =>
    let b := b ^^^ 0x80
    step (if missingGreek.contains b then none else (iso7.decode [b]).head?.join)
  | some _ => .error .unreadable

/-- A step to a character of the set that is chosen. -/
def takeChosen (s : State) (b : UInt8) (bs : List UInt8) : Except Stop Step :=
  match if s.isShifted then s.second else s.first with
  | none => .ok (.char s (ofByte b))
  | some set =>
    let step (text? : Option (List Char)) (more : Nat) : Except Stop Step :=
      .ok ⟨(Taken.mk text? more).reading, more, s⟩
    match set.isDouble, bs with
    | false, _ => step (set.text? b b) 0
    | true, t :: _ => step (set.text? b t) 1
    | true, [] => .error .cutOff

/-- The next step. -/
def step (c : Switching) (s : State) (b : UInt8) (bs : List UInt8) : Except Stop Step :=
  if s.inForeign then .ok (.char { s with inForeign := !endsEscape b } (ofByte b))
  else if b = escape then
    match bs with
    | [] => .error .cutOff
    | d :: ds =>
      if "()$.&".toList.contains (ofByte d) then c.takeEscape s bs
      else if c.hasThird && ofByte d = 'N' then
        match ds with
        | [] => .error .cutOff
        | x :: _ => takeThird s x
      else .ok (.char { s with inForeign := true } (ofByte b))
  else if c.shifts && b = 0x0f then .ok ⟨[], 0, { s with isShifted := false }⟩
  else if c.shifts && b = 0x0e then .ok ⟨[], 0, { s with isShifted := true }⟩
  else if b = 0x0a then .ok (.char { s with isShifted := false } (ofByte b))
  else if b < 0x20 then .ok (.char s (ofByte b))
  else if 0x80 ≤ b then .ok ⟨[none], 0, s⟩
  else takeChosen s b bs

/-- The characters of bytes. Bytes that end too early are one gap, if they are no more than `limit`
where there is one. -/
def decode (c : Switching) (limit : Option Nat) (s : State) :
    List UInt8 → Except Error Reading
  | [] => .ok []
  | b :: bs =>
    match c.step s b bs with
    | .ok taken => do return taken.reading ++ (← decode c limit taken.state (bs.drop taken.more))
    | .error .cutOff => if limit.any (· < bs.length + 1) then .error .cutOff else .ok [none]
    | .error .unreadable => .error .unreadable
termination_by bs => bs.length
decreasing_by simp only [List.length_cons, List.length_drop]; omega

end Switching

/-! ### Charsets -/

open CharacterSet in
/-- The charsets for Japanese and Korean mail. -/
def switchingCharsets : List Switching :=
  let japaneseSets := [japanese, japaneseLetters, olderJapanese]
  let charset (names labels : List String) (sets : List CharacterSet) : Switching :=
    ⟨names, labels, sets, false, false, true⟩
  [charset ["iso2022_jp"] ["csiso2022jp", "iso2022jp", "iso_2022_jp"] japaneseSets,
    charset ["iso2022_jp_1"] ["iso2022jp_1", "iso_2022_jp_1"] (furtherJapanese :: japaneseSets),
    { charset ["iso2022_jp_2"] ["iso2022jp_2", "iso_2022_jp_2"]
        ([furtherJapanese, korean, chinese, western, greek] ++ japaneseSets) with hasThird := true },
    charset ["iso2022_jp_2004"] ["iso_2022_jp_2004", "iso2022jp_2004"]
      [japanese, extendedLater, extendedSecond],
    charset ["iso2022_jp_3"] ["iso2022jp_3", "iso_2022_jp_3"]
      [japanese, extendedFirst, extendedSecond],
    charset ["iso2022_jp_ext"] ["iso2022jp_ext", "iso_2022_jp_ext"]
      ([furtherJapanese, kana] ++ japaneseSets),
    ⟨["iso2022_kr"], ["csiso2022kr", "iso2022kr", "iso_2022_kr"], [korean], true, false, false⟩]

/-! ### Tildes -/

/-- Simplified Chinese in seven bits: a tilde and a brace switch between ASCII and the grid, two
tildes are one, and a tilde at the end of a line joins it to the next one. -/
def decodeTildes (inGrid : Bool) : List UInt8 → Reading
  | [] => []
  | [b] => [if !inGrid && b < 0x80 && ofByte b ≠ '~' then some (ofByte b) else none]
  | b :: t :: bs =>
    if ofByte b = '~' then
      if ofByte t = '~' && !inGrid then some '~' :: decodeTildes false bs
      else if ofByte t = '\x7b' && !inGrid then decodeTildes true bs
      else if ofByte t = '\n' && !inGrid then decodeTildes false bs
      else if ofByte t = '\x7d' && inGrid then decodeTildes false bs
      else none :: decodeTildes inGrid (t :: bs)
    else if 0x80 ≤ b then none :: decodeTildes inGrid (t :: bs)
    else if !inGrid then some (ofByte b) :: decodeTildes false (t :: bs)
    else
      match (CharacterSet.cell? b t).bind (cellAt? gb2312Cells) with
      | some c => some c :: decodeTildes true bs
      | none => none :: decodeTildes true (t :: bs)

end ApiBridge.Charset
