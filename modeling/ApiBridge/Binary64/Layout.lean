import ApiBridge.Binary64.Shortest

/-!
# Written numbers

A layout says how a decimal is spelled: which exponents are written out in full, and the texts of
the values that are no numbers.
-/

namespace ApiBridge

/-- How a double is spelled. -/
structure NumberLayout where
  /-- The least exponent of a first digit that is written out. -/
  lowest : Int
  /-- The least exponent of a first digit above `lowest` that is not written out. -/
  bound : Int
  nan : String
  infinity : String
  deriving DecidableEq, Repr

namespace NumberLayout

/-- The layout of numbers in texts about values. -/
def plain : NumberLayout := ⟨-4, 16, "nan", "inf"⟩

/-- The layout of numbers in JSON documents. -/
def json : NumberLayout := ⟨-4, 16, "NaN", "Infinity"⟩

/-- The exponent mark: a sign and at least two digits. -/
def exponentMark (e : Int) : String :=
  let digits := toString e.natAbs
  "e" ++ (if e < 0 then "-" else "+") ++ (if digits.length < 2 then "0" ++ digits else digits)

/-- A decimal written out in full; a whole number is followed by `.0`. -/
def positional (d : Decimal) : String :=
  let digits := d.chars
  if 0 ≤ d.exponent then
    String.ofList (digits ++ List.replicate d.exponent.toNat '0' ++ ['.', '0'])
  else
    let places := (-d.exponent).toNat
    let padded := List.replicate (places + 1 - digits.length) '0' ++ digits
    let split := padded.length - places
    String.ofList (padded.take split) ++ "." ++ String.ofList (padded.drop split)

/-- A decimal written with one digit before the point and an exponent. -/
def scientific (d : Decimal) : String :=
  match d.chars with
  | [] => ""
  | [c] => String.ofList [c] ++ exponentMark d.leading
  | c :: cs => String.ofList [c] ++ "." ++ String.ofList cs ++ exponentMark d.leading

/-- A decimal in the layout. -/
def decimal (layout : NumberLayout) (d : Decimal) : String :=
  if layout.lowest ≤ d.leading ∧ d.leading < layout.bound then positional d
  else scientific d

/-- A double as its decimal `d` in the layout. -/
def spell (layout : NumberLayout) (x : Binary64) (d : Decimal) : String :=
  if x.isNaN then layout.nan
  else (if x.isNegative then "-" else "")
    ++ if x.isInfinite then layout.infinity else layout.decimal d

end NumberLayout

namespace Binary64

/-- The shortest text of a double. -/
def text (layout : NumberLayout) (x : Binary64) : String :=
  layout.spell x x.shortest

example : (ofDecimal false 1 22).text .plain = "1e+22" := by decide +kernel
example : (ofDecimal false 1 15).text .plain = "1000000000000000.0" := by decide +kernel
example : (ofDecimal false 1 (-5)).text .plain = "1e-05" := by decide +kernel
example : (ofDecimal true 25 (-4)).text .plain = "-0.0025" := by decide +kernel
example : (zero true).text .plain = "-0.0" := by decide +kernel

end Binary64

end ApiBridge
