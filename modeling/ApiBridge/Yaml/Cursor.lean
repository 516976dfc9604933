import ApiBridge.Text.CodeRange

/-!
# Places in a text

A cursor is what is left of a text, together with the line and column it starts at. Past the end,
every character is the null character, which no text holds.
-/

namespace ApiBridge.Yaml

/-! ### Characters -/

/-- The character past the end of a text. -/
def endMark : Char := '\x00'

/-- May the character stand in a text? -/
def isPrintable (c : Char) : Bool :=
  Text.CodeRange.covers ([(0x09, 0x0a), (0x0d, 0x0d), (0x20, 0x7e), (0x85, 0x85),
    (0xa0, 0xd7ff), (0xe000, 0xfffd), (0x10000, 0x10ffff)].map Text.CodeRange.ofPair) c.toNat

/-- Does the character break a line? -/
def isBreak (c : Char) : Bool :=
  c = '\n' || c = '\r' || c = '\u0085' || c = '\u2028' || c = '\u2029'

/-- Does the character break a line or stand for the end? -/
def isBreakOrEnd (c : Char) : Bool :=
  isBreak c || c = endMark

/-- Is the character a space, a line break or the end? -/
def isSpaceOrEnd (c : Char) : Bool :=
  c = ' ' || isBreakOrEnd c

/-- Is the character a blank, a line break or the end? -/
def isBlankOrEnd (c : Char) : Bool :=
  c = '\t' || isSpaceOrEnd c

/-- Is the character a space or a tab? -/
def isGap (c : Char) : Bool :=
  c = ' ' || c = '\t'

/-- May the character stand in a name? -/
def isWordChar (c : Char) : Bool :=
  c.isAlphanum || c = '-' || c = '_'

/-- The value of a digit in base sixteen. -/
def hexValue? (c : Char) : Option Nat :=
  if c.isDigit then some (c.toNat - 48)
  else if 'a' ≤ c && c ≤ 'f' then some (c.toNat - 87)
  else if 'A' ≤ c && c ≤ 'F' then some (c.toNat - 55)
  else none

/-- The number that digits in base sixteen stand for. -/
def hexNumber? (cs : List Char) : Option Nat :=
  cs.foldlM (fun n c => (hexValue? c).map (n * 16 + ·)) 0

/-! ### Cursors -/

/-- What is left of a text, and where it starts. -/
structure Cursor where
  rest : List Char
  index : Nat
  line : Nat
  column : Nat
  deriving DecidableEq, Repr, Inhabited

namespace Cursor

/-- The start of a text. -/
def start (cs : List Char) : Cursor :=
  ⟨cs, 0, 0, 0⟩

/-- The character `k` places ahead. -/
def peekAt (c : Cursor) (k : Nat) : Char :=
  c.rest.getD k endMark

/-- The next character. -/
def peek (c : Cursor) : Char :=
  c.peekAt 0

/-- A list that bounds the steps of a loop over the rest: one for each character, and one for the
end. -/
def ahead (c : Cursor) : List Char :=
  endMark :: c.rest

/-- Go past one character. A line break starts a line, and a byte order mark takes no column. -/
def next (c : Cursor) : Cursor :=
  match c.rest with
  | [] => c
  | x :: xs =>
    if isBreak x && !(x = '\r' && xs.head? = some '\n') then ⟨xs, c.index + 1, c.line + 1, 0⟩
    else if x = '\uFEFF' then ⟨xs, c.index + 1, c.line, c.column⟩
    else ⟨xs, c.index + 1, c.line, c.column + 1⟩

/-- Go past `n` characters. -/
def skip (c : Cursor) : Nat → Cursor
  | 0 => c
  | n + 1 => c.next.skip n

/-- Go past the characters in front that satisfy `p`; `ahead` is the rest of the text. -/
def dropFrom (p : Char → Bool) : List Char → Cursor → Cursor
  | [], c => c
  | x :: xs, c => if p x then dropFrom p xs c.next else c

/-- Go past the characters in front that satisfy `p`. -/
def dropWhile (p : Char → Bool) (c : Cursor) : Cursor :=
  dropFrom p c.rest c

/-- The characters in front that satisfy `p`, and what follows them. -/
def span (p : Char → Bool) (c : Cursor) : List Char × Cursor :=
  (c.rest.takeWhile p, c.dropWhile p)

/-- Does the rest of the text start with these characters? -/
def startsWith (c : Cursor) (cs : List Char) : Bool :=
  cs.isPrefixOf c.rest

/-- Is there a mark between documents here: three dashes or three dots, and then a blank? -/
def atDocumentMark (c : Cursor) : Bool :=
  (c.startsWith ['-', '-', '-'] || c.startsWith ['.', '.', '.']) && isBlankOrEnd (c.peekAt 3)

/-- Go past a line break, if there is one. It counts as a line feed, unless it is a separator of
lines or of paragraphs. -/
def lineBreak (c : Cursor) : List Char × Cursor :=
  let x := c.peek
  if c.startsWith ['\r', '\n'] then (['\n'], c.skip 2)
  else if x = '\n' || x = '\r' || x = '\u0085' then (['\n'], c.next)
  else if x = '\u2028' || x = '\u2029' then ([x], c.next)
  else ([], c)

/-- Go past spaces and a comment. -/
def skipComment (c : Cursor) : Cursor :=
  let c := c.dropWhile (· = ' ')
  if c.peek = '#' then c.dropWhile fun x => !isBreakOrEnd x else c

end Cursor

end ApiBridge.Yaml
