/-!
# Bytes as letters

The base-64 form of bytes: three bytes become four letters, with `=` in the places that stay empty.
-/

namespace ApiBridge.Text

/-- The letters in the order of their values. -/
def base64Letters : List Char :=
  "ABCDEFGHIJKLMNOPQRSTUVWXYZabcdefghijklmnopqrstuvwxyz0123456789+/".toList

def base64Letter (n : Nat) : Char :=
  base64Letters.getD n 'A'

/-- The value of a letter. -/
def base64Value? (c : Char) : Option Nat :=
  base64Letters.idxOf? c

/-- Bytes in the base-64 form. -/
def toBase64 : List UInt8 → List Char
  | [] => []
  | [a] =>
    let n := a.toNat * 16
    [base64Letter (n / 64), base64Letter (n % 64), '=', '=']
  | [a, b] =>
    let n := (a.toNat * 256 + b.toNat) * 4
    [base64Letter (n / 4096), base64Letter (n / 64 % 64), base64Letter (n % 64), '=']
  | a :: b :: c :: rest =>
    let n := (a.toNat * 256 + b.toNat) * 256 + c.toNat
    base64Letter (n / 262144) :: base64Letter (n / 4096 % 64) :: base64Letter (n / 64 % 64)
      :: base64Letter (n % 64) :: toBase64 rest

/-- Read letters in groups of four; `group` holds the values of the group so far, in reverse, and
`pads` counts the empty places met in a row. What is no letter is passed over, and empty places that
complete a group end the bytes. -/
def fromBase64 (group : List Nat) (pads : Nat) : List Char → Option (List UInt8)
  | [] => if group.isEmpty then some [] else none
  | c :: cs =>
    if c = '=' then
      if 2 ≤ group.length && 4 ≤ group.length + pads + 1 then
        match group with
        | [b, a] => some [UInt8.ofNat ((a * 64 + b) / 16)]
        | [c, b, a] =>
          let n := ((a * 64 + b) * 64 + c) / 4
          some [UInt8.ofNat (n / 256), UInt8.ofNat (n % 256)]
        | _ => some []
      else fromBase64 group (pads + 1) cs
    else
      match base64Value? c, group with
      | none, _ => fromBase64 group pads cs
      | some v, [c, b, a] =>
        let n := ((a * 64 + b) * 64 + c) * 64 + v
        (fromBase64 [] 0 cs).map fun rest =>
          UInt8.ofNat (n / 65536) :: UInt8.ofNat (n / 256 % 256) :: UInt8.ofNat (n % 256) :: rest
      | some v, group => fromBase64 (v :: group) 0 cs

/-- The bytes that letters stand for. -/
def ofBase64? (s : String) : Option (List UInt8) :=
  fromBase64 [] 0 s.toList

end ApiBridge.Text
