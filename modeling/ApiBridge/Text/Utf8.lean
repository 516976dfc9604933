import ApiBridge.Text.Quoted

/-!
# Texts as bytes

Files hold bytes, and a text is stored in the UTF-8 form. Decoding is strict: overlong forms,
surrogates and cut-off sequences are refused, and the refusal says where the bad bytes are.
-/

namespace ApiBridge.Text

/-- Why bytes are no text. -/
inductive DecodeReason
  | invalidStart
  | invalidContinuation
  | unexpectedEnd
  deriving DecidableEq, Repr

/-- The bytes that stop a decoding: `count` of them from `offset` on, the first being `byte`. -/
structure DecodeError where
  reason : DecodeReason
  byte : UInt8
  offset : Nat
  count : Nat
  deriving DecidableEq, Repr

def DecodeReason.words : DecodeReason → String
  | .invalidStart => "invalid start byte"
  | .invalidContinuation => "invalid continuation byte"
  | .unexpectedEnd => "unexpected end of data"

/-- The report of bytes that are no text. -/
def DecodeError.message (e : DecodeError) : String :=
  let place :=
    if e.count = 1 then
      "byte 0x" ++ String.ofList (hex 2 e.byte.toNat) ++ s!" in position {e.offset}"
    else s!"bytes in position {e.offset}-{e.offset + e.count - 1}"
  "'utf-8' codec can't decode " ++ place ++ ": " ++ e.reason.words

/-- How many bytes follow a first byte of a longer sequence. -/
def followers? (b : UInt8) : Option Nat :=
  if 0xc2 ≤ b && b ≤ 0xdf then some 1
  else if 0xe0 ≤ b && b ≤ 0xef then some 2
  else if 0xf0 ≤ b && b ≤ 0xf4 then some 3
  else none

/-- May `b` stand at place `index` after the first byte `first`? -/
def mayFollow (first : UInt8) (index : Nat) (b : UInt8) : Bool :=
  let low : UInt8 :=
    if index ≠ 0 then 0x80 else if first = 0xe0 then 0xa0 else if first = 0xf0 then 0x90 else 0x80
  let high : UInt8 :=
    if index ≠ 0 then 0xbf else if first = 0xed then 0x9f else if first = 0xf4 then 0x8f else 0xbf
  low ≤ b && b ≤ high

/-- The bits that the bytes after the first one add to a code. -/
def addFollowers (code : Nat) (bs : List UInt8) : Nat :=
  bs.foldl (fun n b => n * 64 + b.toNat % 64) code

/-- How many of the bytes may follow `first`, counted from `index` on. -/
def goodFollowers (first : UInt8) : Nat → List UInt8 → Nat
  | _, [] => 0
  | index, b :: bs => if mayFollow first index b then goodFollowers first (index + 1) bs + 1 else 0

/-- The bits of a code that are in the first of `n + 1` bytes. -/
def leadBits (first : UInt8) (n : Nat) : Nat :=
  first.toNat % Nat.pow 2 (6 - n)

/-- The characters of bytes that start at `offset`. -/
def decodeFrom (offset : Nat) : List UInt8 → Except DecodeError (List Char)
  | [] => .ok []
  | b :: bs =>
    if b < 0x80 then (decodeFrom (offset + 1) bs).map (Char.ofNat b.toNat :: ·)
    else
      match followers? b with
      | none => .error ⟨.invalidStart, b, offset, 1⟩
      | some n =>
        let good := goodFollowers b 0 (bs.take n)
        if good = n then
          (decodeFrom (offset + n + 1) (bs.drop n)).map
            (Char.ofNat (addFollowers (leadBits b n) (bs.take n)) :: ·)
        else if good = bs.length then .error ⟨.unexpectedEnd, b, offset, good + 1⟩
        else .error ⟨.invalidContinuation, b, offset, good + 1⟩
termination_by bs => bs.length
decreasing_by
  · exact Nat.lt_succ_self _
  · exact Nat.lt_succ_of_le (List.length_drop ▸ Nat.sub_le _ _)

/-- The text that bytes stand for. -/
def decode (bs : List UInt8) : Except DecodeError String :=
  (decodeFrom 0 bs).map String.ofList

/-- The bytes of a text. -/
def encode (s : String) : List UInt8 :=
  s.toUTF8.toList

end ApiBridge.Text
