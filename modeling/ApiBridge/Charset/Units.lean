import ApiBridge.Charset.Reading

/-!
# Units of several bytes

In UTF-16 and UTF-32 a text is a row of numbers of two or four bytes each. Which byte of a number
comes first is part of the charset. In UTF-16 a character beyond the first 65536 is a pair of units.
-/

namespace ApiBridge.Charset

/-- Which byte of a number comes first: the least or the greatest one. -/
inductive ByteOrder
  | little
  | big
  deriving DecidableEq, Repr, Inhabited

/-- The number that bytes are. -/
def ByteOrder.number (order : ByteOrder) (bs : List UInt8) : Nat :=
  match order with
  | .little => bs.foldr (fun b n => n * 256 + b.toNat) 0
  | .big => bs.foldl (fun n b => n * 256 + b.toNat) 0

/-- Is the unit the first one of a pair? -/
def isHighUnit (u : Nat) : Bool :=
  0xd800 ≤ u && u < 0xdc00

/-- Is the unit the second one of a pair? -/
def isLowUnit (u : Nat) : Bool :=
  0xdc00 ≤ u && u < 0xe000

/-- The character of a pair of units. -/
def ofUnitPair (high low : Nat) : Char :=
  Char.ofNat (0x10000 + (high - 0xd800) * 0x400 + (low - 0xdc00))

/-- The characters of units of two bytes. A unit without its partner is a gap, and so is what remains
where the bytes end too early. -/
def decodeTwoByteUnits (order : ByteOrder) : List UInt8 → Reading
  | a :: b :: bs =>
    let u := order.number [a, b]
    if isHighUnit u then
      match bs with
      | c :: d :: rest =>
        let v := order.number [c, d]
        if isLowUnit v then some (ofUnitPair u v) :: decodeTwoByteUnits order rest
        else none :: decodeTwoByteUnits order (c :: d :: rest)
      | _ => [none]
    else if isLowUnit u then none :: decodeTwoByteUnits order bs
    else some (Char.ofNat u) :: decodeTwoByteUnits order bs
  | [_] => [none]
  | [] => []
termination_by bs => bs.length
decreasing_by all_goals (simp only [List.length_cons]; omega)

/-- The characters of units of four bytes. -/
def decodeFourByteUnits (order : ByteOrder) : List UInt8 → Reading
  | a :: b :: c :: d :: bs =>
    ofCodePoint? (order.number [a, b, c, d]) :: decodeFourByteUnits order bs
  | [] => []
  | _ => [none]

end ApiBridge.Charset
