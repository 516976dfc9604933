/-!
# Double-precision numbers

A double is kept as its 64 bits, and all arithmetic on it is exact arithmetic on natural numbers.
The finite double with significand `m` and exponent `q` is the number `m * 2 ^ q`.
-/

namespace ApiBridge

/-- A double-precision number, given by its bits. -/
structure Binary64 where
  bits : UInt64
  deriving DecidableEq, Repr, Inhabited

namespace Binary64

/-! ### Fields -/

/-- Is the sign bit set? -/
def isNegative (x : Binary64) : Bool :=
  x.bits >>> 63 == 1

/-- The eleven bits of the biased exponent. -/
def biasedExponent (x : Binary64) : Nat :=
  ((x.bits >>> 52) &&& 0x7ff).toNat

/-- The fifty-two bits below the exponent. -/
def fraction (x : Binary64) : Nat :=
  (x.bits &&& 0xfffffffffffff).toNat

def isNaN (x : Binary64) : Bool :=
  x.biasedExponent == 2047 && x.fraction != 0

def isInfinite (x : Binary64) : Bool :=
  x.biasedExponent == 2047 && x.fraction == 0

def isFinite (x : Binary64) : Bool :=
  x.biasedExponent != 2047

/-- Is the number zero, of either sign? -/
def isZero (x : Binary64) : Bool :=
  x.biasedExponent == 0 && x.fraction == 0

/-- The least significand of a normal number. -/
def leastNormal : Nat := 0x10000000000000

/-- The integer `m` of a finite number `m * 2 ^ q`. -/
def significand (x : Binary64) : Nat :=
  if x.biasedExponent = 0 then x.fraction else x.fraction + leastNormal

/-- The integer `q` of a finite number `m * 2 ^ q`. -/
def exponent (x : Binary64) : Int :=
  (max x.biasedExponent 1 : Nat) - 1075

/-- The number with the given fields. -/
def ofFields (negative : Bool) (biasedExponent fraction : Nat) : Binary64 :=
  let sign := if negative then 0x8000000000000000 else 0
  ⟨UInt64.ofNat (sign + biasedExponent * leastNormal + fraction)⟩

/-- What is no number, with a mark in its lower bits that tells it from others. -/
def nanMarked (mark : Nat) : Binary64 :=
  ofFields false 2047 (0x8000000000000 + mark % 0x8000000000000)

/-- What is no number and has no mark. -/
def nan : Binary64 := nanMarked 0

def infinity (negative : Bool) : Binary64 := ofFields negative 2047 0

def zero (negative : Bool) : Binary64 := ofFields negative 0 0

/-! ### Rounding -/

/-- The quotient rounded to the nearest natural number, a half going to the even neighbour. -/
def roundDiv (num den : Nat) : Nat :=
  let q := num / den
  let r := num % den
  if 2 * r < den then q
  else if den < 2 * r then q + 1
  else q + q % 2

/-- The largest `e` with `2 ^ e ≤ num / den`, for a positive quotient. -/
def floorLog2 (num den : Nat) : Int :=
  let e : Int := num.log2 - den.log2
  if den * Nat.pow 2 e.toNat ≤ num * Nat.pow 2 (-e).toNat then e else e - 1

/-- The double nearest to `num / den`, a tie going to the even significand. -/
def ofRatio (negative : Bool) (num den : Nat) : Binary64 :=
  if num = 0 then zero negative
  else
    let q := max (floorLog2 num den - 52) (-1074)
    let m := roundDiv (num * Nat.pow 2 (-q).toNat) (den * Nat.pow 2 q.toNat)
    let (m, q) := if m = 2 * leastNormal then (leastNormal, q + 1) else (m, q)
    if m < leastNormal then ofFields negative 0 m
    else if 2047 ≤ q + 1075 then infinity negative
    else ofFields negative (q + 1075).toNat (m - leastNormal)

/-- The double nearest to `digits * 10 ^ exponent`. -/
def ofDecimal (negative : Bool) (digits : Nat) (exponent : Int) : Binary64 :=
  let size : Int := (Nat.toDigits 10 digits).length + exponent
  if digits = 0 then zero negative
  else if 310 < size then infinity negative
  else if size < -330 then zero negative
  else ofRatio negative (digits * Nat.pow 10 exponent.toNat) (Nat.pow 10 (-exponent).toNat)

/-- The double nearest to an integer. -/
def ofInt (n : Int) : Binary64 :=
  ofRatio (n < 0) n.natAbs 1

/-! ### Values -/

/-- The size of a finite number, as a numerator and a denominator. -/
def ratio (x : Binary64) : Nat × Nat :=
  (x.significand * Nat.pow 2 x.exponent.toNat, Nat.pow 2 (-x.exponent).toNat)

/-- The integer that a number equals, if it is one. -/
def toInt? (x : Binary64) : Option Int :=
  let (num, den) := x.ratio
  if x.isFinite && num % den == 0 then
    some (if x.isNegative then -(num / den : Nat) else (num / den : Nat))
  else none

/-- Are two doubles one and the same? Zeros of both signs are, and what is no number is only itself:
it has the same mark. -/
def same (x y : Binary64) : Bool :=
  x == y || (x.isZero && y.isZero)

/-- The number with its sign turned. -/
def neg (x : Binary64) : Binary64 :=
  ⟨x.bits ^^^ ((1 : UInt64) <<< 63)⟩

/-! ### Arithmetic -/

/-- A natural number with the sign of a double. -/
def signed (x : Binary64) (n : Nat) : Int :=
  if x.isNegative then -n else n

/-- The sum of two numbers, rounded once. -/
def add (x y : Binary64) : Binary64 :=
  if x.isNaN || y.isNaN then nan
  else if x.isInfinite then
    if y.isInfinite && x.isNegative != y.isNegative then nan else x
  else if y.isInfinite then y
  else if x.isZero && y.isZero then zero (x.isNegative && y.isNegative)
  else
    let (a, b) := x.ratio
    let (c, d) := y.ratio
    let n := x.signed (a * d) + y.signed (c * b)
    ofRatio (n < 0) n.natAbs (b * d)

/-- The product of two numbers, rounded once. -/
def mul (x y : Binary64) : Binary64 :=
  let negative := x.isNegative != y.isNegative
  if x.isNaN || y.isNaN then nan
  else if x.isInfinite || y.isInfinite then
    if x.isZero || y.isZero then nan else infinity negative
  else
    let (a, b) := x.ratio
    let (c, d) := y.ratio
    ofRatio negative (a * c) (b * d)

example : ofDecimal false 15 (-1) = ⟨0x3ff8000000000000⟩ := by decide +kernel
example : ofDecimal false 5 (-324) = ⟨1⟩ := by decide +kernel
example : ofDecimal true 1 400 = infinity true := by decide +kernel

end Binary64

end ApiBridge
