import ApiBridge.Binary64.Basic

/-!
# Shortest decimals

Of all decimals that round to a given double, `Binary64.shortest` picks one with the fewest digits,
and of those the one nearest to the double. `Binary64.roundedTo` instead rounds the double to a
given count of digits.
-/

namespace ApiBridge

/-- The decimal `digits * 10 ^ exponent`. -/
structure Decimal where
  digits : Nat
  exponent : Int
  deriving DecidableEq, Repr, Inhabited

namespace Decimal

/-- The decimal digits of the coefficient. -/
def chars (d : Decimal) : List Char :=
  Nat.toDigits 10 d.digits

/-- The exponent of the first digit: `d` lies between `10 ^ leading` and `10 ^ (leading + 1)`. -/
def leading (d : Decimal) : Int :=
  d.chars.length - 1 + d.exponent

/-- Drop the zeros at the end of the coefficient, at most `fuel` of them. -/
def dropZeros : Nat → Decimal → Decimal
  | 0, d => d
  | fuel + 1, d =>
    if d.digits ≠ 0 ∧ d.digits % 10 = 0 then dropZeros fuel ⟨d.digits / 10, d.exponent + 1⟩ else d

/-- The same number with no zero at the end of its coefficient. -/
def trimmed (d : Decimal) : Decimal :=
  dropZeros d.chars.length d

end Decimal

namespace Binary64

/-- The largest `p` with `10 ^ p ≤ num / den`, for a positive quotient, found from an estimate that
is off by at most one. -/
def floorLog10 (num den : Nat) : Int :=
  let p := floorLog2 num den * 30103 / 100000
  let holds (p : Int) : Bool := den * Nat.pow 10 p.toNat ≤ num * Nat.pow 10 (-p).toNat
  if holds (p + 1) then p + 1 else if holds p then p else p - 1

/-- Twice the ends of the interval of reals that round to a finite positive number, over the common
denominator `den`: the number itself is `num / den`. -/
structure RoundingInterval where
  num : Nat
  den : Nat
  low : Nat
  high : Nat
  closed : Bool

/-- The reals that round to the number. Below a power of two the neighbour is half as far away. -/
def roundingInterval (x : Binary64) : RoundingInterval :=
  let m := x.significand
  let q := x.exponent
  let up := Nat.pow 2 q.toNat
  let den := 4 * Nat.pow 2 (-q).toNat
  let below := if m = leastNormal ∧ -1074 < q then 1 else 2
  ⟨4 * m * up, den, (4 * m - below) * up, (4 * m + 2) * up, m % 2 == 0⟩

/-- Does the decimal lie in the interval? -/
def RoundingInterval.holds (i : RoundingInterval) (d : Decimal) : Bool :=
  let value := d.digits * Nat.pow 10 d.exponent.toNat * i.den
  let unit := Nat.pow 10 (-d.exponent).toNat
  if i.closed then i.low * unit ≤ value && value ≤ i.high * unit
  else i.low * unit < value && value < i.high * unit

/-- The decimals with exponent `k` just below and just above the middle of the interval, the nearer
one first; at equal distance the even one is first. -/
def RoundingInterval.neighbours (i : RoundingInterval) (k : Int) : List Decimal :=
  let num := i.num * Nat.pow 10 (-k).toNat
  let den := i.den * Nat.pow 10 k.toNat
  let d := num / den
  let r := num % den
  if 2 * r < den || (2 * r == den && d % 2 == 0) then [⟨d, k⟩, ⟨d + 1, k⟩]
  else [⟨d + 1, k⟩, ⟨d, k⟩]

/-- The shortest decimal with at least `17 - fuel` digits; seventeen digits always suffice. -/
def shortestFrom (i : RoundingInterval) (top : Int) : Nat → Decimal
  | 0 => (i.neighbours (top - 16)).headD ⟨0, 0⟩
  | fuel + 1 =>
    match (i.neighbours (top - (16 - (fuel + 1) : Int))).find? i.holds with
    | some d => d
    | none => shortestFrom i top fuel

/-- The shortest decimal that rounds to the size of a finite number. -/
def shortest (x : Binary64) : Decimal :=
  if x.isZero then ⟨0, 0⟩
  else
    let i := x.roundingInterval
    (shortestFrom i (floorLog10 i.num i.den) 16).trimmed

/-- The size of a finite number rounded to `count` digits, a tie going to the even digit. -/
def roundedTo (count : Nat) (x : Binary64) : Decimal :=
  if x.isZero then ⟨0, 0⟩
  else
    let (num, den) := x.ratio
    let k := floorLog10 num den - (count - 1 : Nat)
    (Decimal.mk (roundDiv (num * Nat.pow 10 (-k).toNat) (den * Nat.pow 10 k.toNat)) k).trimmed

example : (ofDecimal false 1 (-1)).shortest = ⟨1, -1⟩ := by decide +kernel
example : (⟨1⟩ : Binary64).shortest = ⟨5, -324⟩ := by decide +kernel
example : (ofDecimal false 30000000000000004 (-17)).shortest = ⟨30000000000000004, -17⟩ := by
  decide +kernel

end Binary64

end ApiBridge
