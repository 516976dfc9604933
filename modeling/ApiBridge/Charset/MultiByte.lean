import ApiBridge.Charset.Reading

/-!
# Charsets with pairs of bytes

In the charsets of East Asia most characters are pairs of bytes. A pair is the cell of a grid: the
first byte chooses the row, and the second one the place in it.
-/

namespace ApiBridge.Charset

/-! ### Grids -/

/-- Put characters into cells, from one cell on. -/
def putRun (cells : Array Char) (start : Nat) (text : String) : Array Char :=
  (text.toList.foldl (fun (cells, i) c => (cells.setIfInBounds i c, i + 1)) (cells, start)).1

/-- Put runs of characters over the cells of a grid. -/
def putRuns (cells : Array Char) (runs : List (Nat × String)) : Array Char :=
  runs.foldl (fun cells run => putRun cells run.1 run.2) cells

/-- A grid with the given number of cells and runs of characters in it. -/
def gridOfRuns (size : Nat) (runs : List (Nat × String)) : Array Char :=
  putRuns (Array.replicate size replacement) runs

/-- The character in a cell, if it is used. -/
def cellAt? (cells : Array Char) (i : Nat) : Option Char :=
  used? (cells.getD i replacement)

/-- The text in a cell, where the cells of `pairs` hold two characters. -/
def textAt? (cells : Array Char) (pairs : List (Nat × String)) (i : Nat) : Option (List Char) :=
  match pairs.lookup i with
  | some text => some text.toList
  | none => (cellAt? cells i).map ([·])

/-- The characters from code point `first` up to `last` that are in no cell, in their order. -/
def absentBetween (cells : Array Char) (first last : Nat) : Array Char :=
  let hold (held : Array Bool) (c : Char) : Array Bool :=
    if first ≤ c.toNat && c ≠ replacement then held.setIfInBounds (c.toNat - first) true else held
  let held := cells.foldl hold (Array.replicate (last + 1 - first) false)
  held.zipIdx.filterMap fun (isHeld, i) =>
    if isHeld || !(first + i).isValidChar then none else some (Char.ofNat (first + i))

/-- The number of cells of a row in most grids. -/
def rowLength : Nat := 94

/-- The cell of a pair of bytes above 160, in a grid with rows of 94 cells. -/
def cellOfHighPair? (lead trail : Nat) : Option Nat :=
  if 0xa1 ≤ lead && lead ≤ 0xfe && 0xa1 ≤ trail && trail ≤ 0xfe then
    some ((lead - 0xa1) * rowLength + (trail - 0xa1))
  else none

/-! ### Characters of several bytes -/

/-- A charset of characters of one or more bytes. -/
structure MultiByte where
  /-- What the charset is called. -/
  names : List String
  /-- What else it may be called. -/
  labels : List String
  /-- What a byte and those behind it start with. -/
  take : UInt8 → List UInt8 → Taken

namespace MultiByte

/-- The characters of bytes. -/
def decode (c : MultiByte) : List UInt8 → Reading
  | [] => []
  | b :: bs =>
    let taken := c.take b bs
    taken.reading ++ decode c (bs.drop taken.more)
termination_by bs => bs.length
decreasing_by simp only [List.length_cons, List.length_drop]; omega

/-- Take a single byte or a pair. The first byte alone is a gap where there is no pair. -/
def takePair (single? : Nat → Option Char) (pair? : Nat → Nat → Option (List Char)) (b : UInt8)
    (bs : List UInt8) : Taken :=
  match single? b.toNat, bs with
  | some c, _ => .char c 0
  | none, [] => .gap 0
  | none, t :: _ => .ofText? (pair? b.toNat t.toNat) 1

/-- The bytes of ASCII are single. -/
def asciiOnly (b : Nat) : Option Char :=
  if b < 0x80 then some (Char.ofNat b) else none

/-- The text of a pair that has a cell in a grid. -/
def cellPair? (cells : Array Char) (cell? : Nat → Nat → Option Nat) (lead trail : Nat) :
    Option (List Char) :=
  ((cell? lead trail).bind (cellAt? cells)).map ([·])

/-- Take a single byte of ASCII or a pair that has a cell in a grid. -/
def takeCell (cells : Array Char) (cell? : Nat → Nat → Option Nat) (b : UInt8)
    (bs : List UInt8) : Taken :=
  takePair asciiOnly (cellPair? cells cell?) b bs

end MultiByte

end ApiBridge.Charset
