import ApiBridge.Binary64.Layout

/-!
# Rounded texts of doubles

A double is written with a fixed number of places after the point, with one digit before the point
and an exponent, or with a number of significant digits in whichever of the two ways is shorter. All
of these write the size of a finite double; `withSign` and `Binary64.roundedText` add the rest.
-/

namespace ApiBridge

/-- The ways to write a rounded number. -/
inductive RoundedStyle
  /-- Places after the point. -/
  | fixed
  /-- One digit before the point, and an exponent. -/
  | scientific
  /-- Significant digits, with an exponent where that is shorter. -/
  | general
  deriving DecidableEq, Repr

namespace Binary64

/-- Digits with a point after the first `whole` of them. A point at the end is left out, unless the
number is written in full. -/
def withPoint (full : Bool) (whole : Nat) (digits : List Char) : String :=
  match digits.drop whole with
  | [] => String.ofList (digits ++ if full then ['.'] else [])
  | places => String.ofList (digits.take whole ++ '.' :: places)

/-- Digits with zeros after them, up to `count` of them. -/
def filledTo (count : Nat) (digits : List Char) : List Char :=
  digits ++ List.replicate (count - digits.length) '0'

/-- The size of a number with places after the point. -/
def fixedText (full : Bool) (places : Nat) (x : Binary64) : String :=
  let (num, den) := x.ratio
  let digits := Nat.toDigits 10 (roundDiv (num * Nat.pow 10 places) den)
  let digits := List.replicate (places + 1 - digits.length) '0' ++ digits
  withPoint full (digits.length - places) digits

/-- The size of a number with one digit before the point and `places` after it. -/
def scientificText (full : Bool) (places : Nat) (x : Binary64) : String :=
  let d := x.roundedTo (places + 1)
  withPoint full 1 (filledTo (places + 1) d.chars) ++ NumberLayout.exponentMark d.leading

/-- The size of a number to `count` significant digits, at least one. Zeros at the end are left out,
unless the number is written in full. -/
def generalText (full : Bool) (count : Nat) (x : Binary64) : String :=
  let count := max count 1
  let d := x.roundedTo count
  let digits := if full then filledTo count d.chars else d.chars
  if d.leading < -4 ∨ count ≤ d.leading then
    withPoint full 1 digits ++ NumberLayout.exponentMark d.leading
  else if d.leading < 0 then
    withPoint full 1 (List.replicate d.leading.natAbs '0' ++ digits)
  else
    let whole := d.leading.toNat + 1
    withPoint full whole (filledTo whole digits)

/-- The size of a number in a style; what is no finite number has a word. -/
def roundedText (style : RoundedStyle) (full : Bool) (precision : Nat) (x : Binary64) : String :=
  if x.isNaN then "nan"
  else if x.isInfinite then "inf"
  else
    match style with
    | .fixed => x.fixedText full precision
    | .scientific => x.scientificText full precision
    | .general => x.generalText full precision

/-- The digits or places that are written where no number of them is asked for. -/
def defaultPrecision : Nat := 6

/-- A double to six significant digits, with its sign. -/
def shortText (x : Binary64) : String :=
  (if x.isNegative && !x.isNaN then "-" else "") ++ x.roundedText .general false defaultPrecision

example : (ofDecimal false 12345678 (-4)).generalText false 3 = "1.23e+03" := by decide +kernel
example : (ofInt 25).generalText false 0 = "2e+01" := by decide +kernel
example : (ofInt 1).generalText true 6 = "1.00000" := by decide +kernel
example : (ofDecimal false 25 (-1)).fixedText false 0 = "2" := by decide +kernel
example : (ofInt 600).shortText = "600" ∧ (zero true).shortText = "-0" := by decide +kernel

end Binary64

end ApiBridge
