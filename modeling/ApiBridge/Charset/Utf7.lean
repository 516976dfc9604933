import ApiBridge.Charset.Units
import ApiBridge.Text.Base64

/-!
# Text in seven bits

In UTF-7 most characters of ASCII stand for themselves. All others are given in runs: a plus sign,
the two-byte units of the characters in letters of six bits each, and the end of the run, which may
be marked by a dash.
-/

namespace ApiBridge.Charset

/-- What is left over inside a run. -/
structure LetterRun where
  /-- The number of bits that are not used yet. -/
  count : Nat := 0
  /-- Those bits as a number. -/
  bits : Nat := 0
  /-- The first unit of a pair whose second one is still missing. -/
  high : Option Nat := none
  deriving DecidableEq, Repr

namespace LetterRun

/-- The character of a unit. Half of a pair is one that cannot be told. -/
def ofUnit (u : Nat) : Char :=
  (ofCodePoint? u).getD replacement

/-- Take one more unit. -/
def addUnit (r : LetterRun) (u : Nat) : List Char × LetterRun :=
  match r.high with
  | some h =>
    if isLowUnit u then ([ofUnitPair h u], { r with high := none })
    else if isHighUnit u then ([ofUnit h], { r with high := some u })
    else ([ofUnit h, ofUnit u], { r with high := none })
  | none => if isHighUnit u then ([], { r with high := some u }) else ([ofUnit u], r)

/-- Take the six bits of one more letter. -/
def add (r : LetterRun) (value : Nat) : List Char × LetterRun :=
  let count := r.count + 6
  let bits := r.bits * 64 + value
  if count < 16 then ([], ⟨count, bits, r.high⟩)
  else
    let rest := Nat.pow 2 (count - 16)
    addUnit ⟨count - 16, bits % rest, r.high⟩ (bits / rest)

/-- Are the bits left over no more than filling? -/
def isWhole (r : LetterRun) : Bool :=
  r.count < 6 && r.bits = 0

end LetterRun

/-- The characters of bytes, inside a run or between runs. -/
def decodeSevenBits : Option LetterRun → List UInt8 → Reading
  | none, [] => []
  | some r, [] => if r.isWhole && r.high.isNone then [] else [none]
  | none, b :: bs =>
    if ofByte b = '+' then
      match bs with
      | [] => []
      | c :: rest =>
        if ofByte c = '-' then some '+' :: decodeSevenBits none rest
        else if (Text.base64Value? (ofByte c)).isSome then decodeSevenBits (some {}) (c :: rest)
        else none :: decodeSevenBits none rest
    else (if b < 0x80 then some (ofByte b) else none) :: decodeSevenBits none bs
  | some r, b :: bs =>
    match Text.base64Value? (ofByte b) with
    | some value =>
      let (cs, r) := r.add value
      cs.map some ++ decodeSevenBits (some r) bs
    | none =>
      if r.isWhole then
        let rest := if ofByte b = '-' then bs else b :: bs
        match r.high with
        | some h =>
          (if b < 0x80 then [some (LetterRun.ofUnit h)] else []) ++ decodeSevenBits none rest
        | none => decodeSevenBits none rest
      else none :: decodeSevenBits none bs
termination_by r bs => 2 * bs.length + if r.isSome then 1 else 0
decreasing_by all_goals (simp only [List.length_cons]; grind)

end ApiBridge.Charset
