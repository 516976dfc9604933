/-!
# Reading bytes as characters

Bytes are read from left to right. Some of them may be no character in a charset: these are gaps, and
what becomes of gaps is decided by who asks for a text.
-/

namespace ApiBridge.Charset

/-- What stands for bytes that are no character. In tables it stands in unused cells. -/
def replacement : Char := '\ufffd'

/-- The characters that bytes are read as, and the gaps between them. -/
abbrev Reading := List (Option Char)

namespace Reading

/-- The text with a replacement in each gap. -/
def filled (r : Reading) : String :=
  String.ofList (r.map (·.getD replacement))

/-- The text, if there is no gap. -/
def whole? (r : Reading) : Option String :=
  (r.mapM id).map String.ofList

@[simp] theorem filled_nil : filled [] = "" := rfl

@[simp] theorem whole?_nil : whole? [] = some "" := rfl

end Reading

/-- A character of a table, if the cell it comes from is used. -/
def used? (c : Char) : Option Char :=
  if c = replacement then none else some c

/-- The character of a byte. -/
def ofByte (b : UInt8) : Char :=
  Char.ofNat b.toNat

/-- The character with a number, if there is one. -/
def ofCodePoint? (n : Nat) : Option Char :=
  if n.isValidChar then some (Char.ofNat n) else none

/-- Why bytes have no text. -/
inductive Error
  /-- No mark tells the order of bytes in units of so many bits. -/
  | unmarked (bits : Nat)
  /-- The charset turns bytes into bytes. -/
  | bytesOnly
  /-- The charset turns texts into texts. -/
  | textsOnly
  /-- The charset does not fill gaps. -/
  | refused
  | undefined
  /-- A byte at a place among the digits of a name in ASCII. -/
  | notAscii (b : UInt8) (offset : Nat)
  /-- The bytes end in the middle of a long escape sequence. -/
  | cutOff
  /-- A set of characters is chosen that cannot be read. -/
  | unreadable
  deriving DecidableEq, Repr

/-- What is taken from the start of bytes. -/
structure Taken where
  /-- The characters, or nothing if the bytes are none. -/
  text? : Option (List Char)
  /-- How many bytes belong to it behind the first one. -/
  more : Nat
  deriving DecidableEq, Repr

namespace Taken

/-- A character. -/
def char (c : Char) (more : Nat) : Taken :=
  ⟨some [c], more⟩

/-- Bytes that are no character. -/
def gap (more : Nat) : Taken :=
  ⟨none, more⟩

/-- The characters of `more + 1` bytes; where there are none, the first byte alone is a gap. -/
def ofText? (text? : Option (List Char)) (more : Nat) : Taken :=
  if text?.isSome then ⟨text?, more⟩ else gap 0

/-- What is taken, as part of a reading. -/
def reading (t : Taken) : Reading :=
  match t.text? with
  | some cs => cs.map some
  | none => [none]

end Taken

end ApiBridge.Charset
