import ApiBridge.Charset.Escape
import ApiBridge.Charset.Switching
import ApiBridge.Charset.Utf7
import ApiBridge.Text.Punycode
import ApiBridge.Text.Utf8

/-!
# Charsets

A charset tells which text bytes are. A text may be read in a lenient way, where bytes that are no
character are replaced, so that nearly all bytes have a text in nearly every charset. Or it may be
read strictly, where one such byte leaves no text.
-/

namespace ApiBridge

/-- A way to write texts in bytes. -/
inductive Charset
  | table (t : Charset.ByteTable)
  | multiByte (c : Charset.MultiByte)
  | switching (c : Charset.Switching)
  /-- Simplified Chinese between tildes and braces. -/
  | tildes
  | utf7
  /-- A mark may stand in front of the text. -/
  | utf8 (marked : Bool)
  /-- If no order is given, a mark in front of the text tells it. -/
  | utf16 (order : Option Charset.ByteOrder)
  | utf32 (order : Option Charset.ByteOrder)
  | escaped
  /-- Only the escapes with a code point count. -/
  | escapedRaw
  /-- A name in ASCII. -/
  | punycode
  /-- The labels of a host, which are read strictly or not at all. -/
  | hostName
  /-- A coding that turns bytes into bytes. -/
  | ofBytes
  /-- A coding that turns texts into texts. -/
  | ofTexts
  /-- The charset that has no texts. -/
  | undefined

namespace Charset

/-- The report of bytes that have no text. -/
def Error.message : Error → String
  | .unmarked bits => s!"UTF-{bits} stream does not start with BOM"
  | .bytesOnly => ""
  | .textsOnly => "descriptor 'translate' for 'str' objects doesn't apply to a 'bytes' object"
  | .refused => "Unsupported error handling replace"
  | .undefined => "undefined encoding"
  | .notAscii b offset =>
    "'ascii' codec can't decode byte 0x" ++ String.ofList (Text.hex 2 b.toNat)
      ++ s!" in position {offset}: ordinal not in range(128)"
  | .cutOff => "pending buffer overflow"
  | .unreadable => "internal codec error"

/-- How gaps are dealt with. -/
inductive Strictness
  /-- A gap is filled. -/
  | lenient
  /-- A gap leaves no text. -/
  | strict
  deriving DecidableEq, Repr

/-! ### Reading -/

/-- The characters of bytes in UTF-8. Of a sequence that is cut off, all bytes are one gap. -/
def decodeUtf8 : List UInt8 → Reading
  | [] => []
  | b :: bs =>
    if b < 0x80 then some (ofByte b) :: decodeUtf8 bs
    else
      match Text.followers? b with
      | none => none :: decodeUtf8 bs
      | some n =>
        let good := Text.goodFollowers b 0 (bs.take n)
        if good = n then
          some (Char.ofNat (Text.addFollowers (Text.leadBits b n) (bs.take n)))
            :: decodeUtf8 (bs.drop n)
        else none :: decodeUtf8 (bs.drop good)
termination_by bs => bs.length
decreasing_by all_goals (simp only [List.length_cons, List.length_drop]; omega)

/-- The bytes without a mark at their start. -/
def dropMark (mark bs : List UInt8) : List UInt8 :=
  if mark.isPrefixOf bs then bs.drop mark.length else bs

/-- The characters of units of `size` bytes, whose order is given or told by the mark. Fewer bytes
than a unit need no mark, and a strict reading takes the least byte first where there is none. -/
def decodeUnits (size : Nat) (decode : ByteOrder → List UInt8 → Reading)
    (order : Option ByteOrder) (s : Strictness) (bs : List UInt8) : Except Error Reading :=
  match order with
  | some order => .ok (decode order bs)
  | none =>
    if bs.length < size then .ok [none]
    else if ByteOrder.little.number (bs.take size) = 0xfeff then .ok (decode .little (bs.drop size))
    else if ByteOrder.big.number (bs.take size) = 0xfeff then .ok (decode .big (bs.drop size))
    else
      match s with
      | .lenient => .error (.unmarked (8 * size))
      | .strict => .ok (decode .little bs)

/-- The characters of bytes in ASCII. -/
def decodeAscii (bs : List UInt8) : Reading :=
  bs.map fun b => if b < 0x80 then some (ofByte b) else none

/-- The characters of a name in ASCII. Its digits must be ASCII, and a strict reading of them must
come to their end. -/
def decodePunycode (s : Strictness) (bs : List UInt8) : Except Error Reading :=
  let digits := Text.punycodeDigits ('-'.toNat.toUInt8) bs
  let basic := decodeAscii (bs.take (bs.length - digits.length)).dropLast
  match digits.zipIdx.find? (0x80 ≤ ·.1) with
  | some (b, offset) => .error (.notAscii b offset)
  | none =>
    let reading := Text.readPunycode (basic.map (·.getD replacement)) (digits.map ofByte)
    let isWhole := reading.isWhole && basic.all (·.isSome)
    .ok (if s = .strict && !isWhole then [none] else reading.name.map some)

/-- The most bytes that may be left over when the bytes end in a sequence. -/
def longestRest : Strictness → Option Nat
  | .lenient => some 8
  | .strict => none

/-- The characters of bytes. -/
def reading (c : Charset) (s : Strictness) (bs : List UInt8) : Except Error Reading :=
  match c with
  | .table t => .ok (t.decode bs)
  | .multiByte c => .ok (c.decode bs)
  | .switching c => c.decode (longestRest s) {} bs
  | .tildes => .ok (decodeTildes false bs)
  | .utf7 => .ok (decodeSevenBits none bs)
  | .utf8 marked => .ok (decodeUtf8 (if marked then dropMark [0xef, 0xbb, 0xbf] bs else bs))
  | .utf16 order => decodeUnits 2 decodeTwoByteUnits order s bs
  | .utf32 order => decodeUnits 4 decodeFourByteUnits order s bs
  | .escaped => .ok (unescapeAll (bs.map ofByte))
  | .escapedRaw => .ok (unescapeRaw (bs.map ofByte))
  | .punycode => decodePunycode s bs
  | .hostName => if s = .strict then .ok (decodeAscii bs) else .error .refused
  | .ofBytes => .error .bytesOnly
  | .ofTexts => .error .textsOnly
  | .undefined => .error .undefined

/-! ### Texts -/

/-- The text of bytes; no bytes are an empty text in any charset. -/
def decode (c : Charset) (bs : List UInt8) : Except Error String :=
  if bs.isEmpty then .ok "" else (c.reading .lenient bs).map Reading.filled

/-- The text of bytes, if all of them are characters. -/
def decodeWhole? (c : Charset) (bs : List UInt8) : Except Error (Option String) :=
  match c.reading .strict bs with
  | .ok r => .ok r.whole?
  | .error .unreadable => .error .unreadable
  | .error _ => .ok none

end Charset

end ApiBridge
