import ApiBridge.Charset.Reading

/-!
# Tables of bytes

In the simplest charsets every byte is a character, or none.
-/

namespace ApiBridge.Charset

/-- A charset of single bytes. -/
structure ByteTable where
  /-- What the charset is called. -/
  names : List String
  /-- What else it may be called. In such a label an underscore may be given as a dot. -/
  labels : List String
  /-- The bytes below this one are the characters of ASCII. -/
  start : Nat := 128
  /-- The characters of the bytes from `start` on, with a replacement for those that are none. -/
  characters : String
  deriving DecidableEq, Repr

/-- The characters of bytes. -/
def ByteTable.decode (t : ByteTable) (bs : List UInt8) : Reading :=
  let characters := t.characters.toList.toArray
  bs.map fun b =>
    if b.toNat < t.start then some (ofByte b)
    else used? (characters.getD (b.toNat - t.start) replacement)

end ApiBridge.Charset
